import EventForge.Proofs.Json.Compact
import EventForge.Proofs.Module.Loading
import EventForge.Proofs.Text.Utf8

/-!
# Fingerprints

The text whose digest is the fingerprint of a compiled schema determines the entities of the schema,
so that equal fingerprints mean equal entities unless two different texts have the same digest.  The
remarks of the fields stand in no text, but follow from what does.
-/

namespace EventForge

/-- Lists with the same images are the same if their entries are. -/
theorem eq_of_map_eq {Entry Image : Type} (image : Entry → Image) (first second : List Entry)
    (each : ∀ entry ∈ first, ∀ other ∈ second, image entry = image other → entry = other)
    (same : first.map image = second.map image) : first = second := by
  induction first generalizing second with
  | nil =>
      cases second with
      | nil => rfl
      | cons other second => cases same
  | cons entry first ih =>
      cases second with
      | nil => cases same
      | cons other second =>
          obtain ⟨own, rest⟩ := List.cons.inj same
          rw [each entry (by simp) other (by simp) own,
            ih second (fun entry member other otherMember =>
              each entry (by simp [member]) other (by simp [otherMember])) rest]

/-!
## Digests
-/

namespace Sha256

/-- Whether different messages have the same digest. -/
def Collide (first second : Bytes) : Prop := first ≠ second ∧ digest first = digest second

/-- Bytes are determined by their hexadecimal digits. -/
theorem eq_of_hexDigits (first second : Bytes)
    (same : first.flatMap (fun byte => Text.ofHex 2 byte.toNat) =
      second.flatMap fun byte => Text.ofHex 2 byte.toNat) : first = second := by
  have digits (byte : UInt8) := Text.ofHex_two byte.toNat byte.toNat_lt
  have apart : ∀ digit other : Fin 16,
      Text.hexDigit digit.val = Text.hexDigit other.val → digit = other := by decide
  induction first generalizing second with
  | nil =>
      cases second with
      | nil => rfl
      | cons byte second => rw [List.flatMap_cons, digits] at same; cases same
  | cons byte first ih =>
      cases second with
      | nil => rw [List.flatMap_cons, digits] at same; cases same
      | cons other second =>
          rw [List.flatMap_cons, List.flatMap_cons, digits, digits] at same
          obtain ⟨high, behind⟩ := List.cons.inj same
          obtain ⟨low, rest⟩ := List.cons.inj behind
          have bound := byte.toNat_lt
          have otherBound := other.toNat_lt
          have highs := apart ⟨byte.toNat / 16, by omega⟩ ⟨other.toNat / 16, by omega⟩ high
          have lows := apart ⟨byte.toNat % 16, by omega⟩ ⟨other.toNat % 16, by omega⟩ low
          rw [Fin.mk.injEq] at highs lows
          have bytes : byte.toNat = other.toNat := by omega
          rw [UInt8.toNat_inj.mp bytes, ih second rest]

end Sha256

/-!
## Fields

The members of a field determine all of it but its remark.
-/

namespace Json

/-- Objects that are sorted to the same value have the same values under a key. -/
theorem value_of_sorted_eq (members seconds : List (Text × Json))
    (same : (Json.object members).sorted = (Json.object seconds).sorted)
    (distinct : (seconds.map Prod.fst).Nodup) (key : Text) (value other : Json)
    (member : (key, value) ∈ members) (otherMember : (key, other) ∈ seconds) :
    value.sorted = other.sorted := by
  obtain ⟨found, foundMember, named, values⟩ := mem_of_sorted_eq members seconds same _ member
  rw [List.inj_on_of_nodup_map distinct foundMember otherMember named] at values
  exact values.symm

end Json

theorem ScalarType.eq_of_label (first second : ScalarType) (same : first.label = second.label) :
    first = second := by
  cases first <;> cases second <;> first | rfl | exact absurd same (by decide)

namespace Field

/-- The members that every field has. -/
def ownMembers (field : Field) : List (Text × Json) :=
  [("name", .text field.name), ("original_name", .text field.declaredName),
    ("type", .text field.type.label), ("position", .integer field.position),
    ("generator", .text field.generator)]

/-- The members of a field. -/
def members (field : Field) : List (Text × Json) :=
  field.ownMembers ++ (if field.isTime then [(("time_field" : Text), Json.bool true)] else []) ++
    (if field.insertable then [] else [(("insertable" : Text), Json.bool false)])

theorem toJson_eq (field : Field) : field.toJson = .object field.members := rfl

/-- The keys of the members of a field. -/
def keys (field : Field) : List Text :=
  (["name", "original_name", "type", "position", "generator"] : List Text) ++
    (if field.isTime then [("time_field" : Text)] else []) ++
      (if field.insertable then [] else [("insertable" : Text)])

theorem map_members (field : Field) : field.members.map Prod.fst = field.keys := by
  cases time : field.isTime <;> cases stored : field.insertable <;>
    simp [members, ownMembers, keys, time, stored]

theorem nodup_keys (field : Field) : field.keys.Nodup := by
  cases time : field.isTime <;> cases stored : field.insertable <;>
    simp [keys, time, stored, Text.ofString_inj]

theorem isTime_iff (field : Field) : field.isTime = true ↔ ("time_field" : Text) ∈ field.keys := by
  cases time : field.isTime <;> cases stored : field.insertable <;>
    simp [keys, time, Text.ofString_inj]

theorem insertable_iff (field : Field) :
    field.insertable = false ↔ ("insertable" : Text) ∈ field.keys := by
  cases time : field.isTime <;> cases stored : field.insertable <;>
    simp [keys, stored, Text.ofString_inj]

theorem keys_subset (first second : Field) (same : first.toJson.sorted = second.toJson.sorted) :
    ∀ key ∈ first.keys, key ∈ second.keys := by
  intro key listed
  rw [← map_members] at listed ⊢
  obtain ⟨entry, member, rfl⟩ := List.mem_map.mp listed
  obtain ⟨other, otherMember, named, _⟩ := Json.mem_of_sorted_eq _ _ same entry member
  exact List.mem_map.mpr ⟨other, otherMember, named⟩

/-- A field is determined by its members but for its remark. -/
theorem eq_of_toJson_sorted (first second : Field)
    (same : first.toJson.sorted = second.toJson.sorted) :
    first = { second with comment := first.comment } := by
  have keys (key : Text) : key ∈ first.keys ↔ key ∈ second.keys :=
    ⟨keys_subset first second same key, keys_subset second first same.symm key⟩
  have time : first.isTime = second.isTime := by
    rw [Bool.eq_iff_iff, isTime_iff, isTime_iff]
    exact keys _
  have stored : first.insertable = second.insertable := by
    rw [Bool.eq_iff_iff, ← not_iff_not, Bool.not_eq_true, Bool.not_eq_true, insertable_iff,
      insertable_iff]
    exact keys _
  have value (key : Text) (value other : Json) (member : (key, value) ∈ first.ownMembers)
      (otherMember : (key, other) ∈ second.ownMembers) : value.sorted = other.sorted := by
    refine Json.value_of_sorted_eq first.members second.members same ?_ key value other ?_ ?_
    · rw [map_members]
      exact second.nodup_keys
    · exact List.mem_append_left _ (List.mem_append_left _ member)
    · exact List.mem_append_left _ (List.mem_append_left _ otherMember)
  have name := Json.text.inj (value "name" (.text first.name) (.text second.name)
    (by simp [ownMembers]) (by simp [ownMembers]))
  have declared := Json.text.inj (value "original_name" (.text first.declaredName)
    (.text second.declaredName) (by simp [ownMembers]) (by simp [ownMembers]))
  have label := Json.text.inj (value "type" (.text first.type.label) (.text second.type.label)
    (by simp [ownMembers]) (by simp [ownMembers]))
  have position := Int.ofNat.inj (Json.integer.inj (value "position" (.integer first.position)
    (.integer second.position) (by simp [ownMembers]) (by simp [ownMembers])))
  have generator := Json.text.inj (value "generator" (.text first.generator)
    (.text second.generator) (by simp [ownMembers]) (by simp [ownMembers]))
  have type := ScalarType.eq_of_label _ _ label
  cases first
  cases second
  simp_all

/-- Fields whose remarks follow from their names and types are determined by their members. -/
theorem eq_of_map_toJson_sorted (first second : List Field) (remark : Text → ScalarType → Text)
    (remarks : ∀ field ∈ first, field.comment = remark field.declaredName field.type)
    (others : ∀ field ∈ second, field.comment = remark field.declaredName field.type)
    (same : (first.map fun field => field.toJson.sorted) =
      second.map fun field => field.toJson.sorted) : first = second := by
  refine eq_of_map_eq _ _ _ (fun field member other otherMember alike => ?_) same
  have determined := eq_of_toJson_sorted field other alike
  have comment : field.comment = other.comment := by
    rw [remarks field member, others other otherMember, determined]
  rw [determined, comment]

end Field

/-!
## Entities
-/

namespace Entity

/-- The members of an entity. -/
def members (entity : Entity) : List (Text × Json) :=
  [("name", .text entity.name), ("original_name", .text entity.declaredName),
    ("type", .text entity.typeLabel), ("fields", .list (entity.fields.map Field.toJson)),
    ("insert_template", .text entity.insertTemplate),
    ("projected_columns", .text entity.projectedColumns)]

theorem toJson_eq (entity : Entity) : entity.toJson = .object entity.members := rfl

theorem nodup_members (entity : Entity) : (entity.members.map Prod.fst).Nodup := by
  simp [members, Text.ofString_inj]

end Entity

namespace Compilation

/-- The fields of accepted events are determined by their members. -/
theorem fieldsOf_eq_of_toJson_sorted (first second : RawEvent)
    (same : ((fieldsOf first).map fun field => field.toJson.sorted) =
      (fieldsOf second).map fun field => field.toJson.sorted) : fieldsOf first = fieldsOf second := by
  rw [fieldsOf, fieldsOf, List.map_append, List.map_append] at same
  obtain ⟨declared, creations⟩ := List.append_inj' same rfl
  have remarks (event : RawEvent) : ∀ field ∈ fieldsFrom 0 (Validation.sortFields event.typeMapping),
      field.comment = ("generated based on " : Text) ++ field.declaredName ++ " with type " ++
        field.type.label := by
    intro field member
    obtain ⟨_, _, place, rfl⟩ := mem_fieldsFrom _ _ _ member
    rfl
  rw [fieldsOf, fieldsOf,
    Field.eq_of_map_toJson_sorted _ _ (fun name type => ("generated based on " : Text) ++ name ++
      " with type " ++ type.label) (remarks first) (remarks second) declared,
    Field.eq_of_map_toJson_sorted [creationAt first.typeMapping.length] _
      (fun _ _ => "added by the generator so all types have created_at") (by simp [creationAt])
      (by simp [creationAt]) creations]

/-- The entities of accepted events are determined by their members. -/
theorem entityOf_eq_of_toJson_sorted (first second : RawEvent)
    (same : (entityOf first).toJson.sorted = (entityOf second).toJson.sorted) :
    entityOf first = entityOf second := by
  rw [Entity.toJson_eq, Entity.toJson_eq] at same
  have value := Json.value_of_sorted_eq _ _ same (entityOf second).nodup_members
  have name : first.name = second.name := Json.text.inj (value "original_name" (.text first.name)
    (.text second.name) (by simp [Entity.members, entityOf]) (by simp [Entity.members, entityOf]))
  have label : first.typeLabel = second.typeLabel := Json.text.inj (value "type"
    (.text first.typeLabel) (.text second.typeLabel) (by simp [Entity.members, entityOf])
    (by simp [Entity.members, entityOf]))
  have lists := Json.list.inj (value "fields" (.list ((fieldsOf first).map Field.toJson))
    (.list ((fieldsOf second).map Field.toJson)) (by simp [Entity.members, entityOf])
    (by simp [Entity.members, entityOf]))
  rw [Json.sortedItems_eq, Json.sortedItems_eq, List.map_map, List.map_map] at lists
  rw [entityOf, entityOf, name, label, fieldsOf_eq_of_toJson_sorted first second lists]

end Compilation

/-!
## Texts without surrogates

What is made from usable names is ASCII, so that only the labels of the events can hold surrogates.
-/

namespace Identifier

theorem val_lt_of_isLater (point : CodePoint) (name : Text)
    (own : isLater point = true ∨ (point = CodePoint.lineFeed ∧ CodePoint.lineFeed ∈ name)) :
    point.val < 128 := by
  rcases own with later | ⟨rfl, _⟩
  · have bounds := (isLater_iff point).mp later
    omega
  · decide

theorem isAscii_camelCase (name : Text) (usable : isUsable name = true) :
    (camelCase name).IsAscii := fun point member =>
  val_lt_of_isLater point name
    (mem_camelCase name (isIdentifierText_of_isUsable name usable) point member)

theorem isAscii_attributeName (name : Text) (usable : isUsable name = true) :
    (attributeName name).IsAscii := fun point member =>
  val_lt_of_isLater point name
    (mem_attributeName name (isIdentifierText_of_isUsable name usable) point member)

end Identifier

theorem Field.isScalar_toJson (field : Field) (name : field.name.IsAscii)
    (declared : field.declaredName.IsAscii) (generator : field.generator.IsAscii) :
    field.toJson.IsScalar := by
  have label : field.type.label.IsAscii := by cases field.type <;> decide
  have keys : ∀ key ∈ field.keys, key.IsAscii := by
    cases time : field.isTime <;> cases stored : field.insertable <;>
      simp only [Field.keys, time, stored] <;> decide
  refine .object _ (fun entry member => ?_) fun entry member => ?_
  · refine (keys entry.1 ?_).isScalar
    rw [← Field.map_members]
    exact List.mem_map.mpr ⟨entry, member, rfl⟩
  · rcases List.mem_append.mp member with member | member
    · rcases List.mem_append.mp member with member | member
      · simp only [List.mem_cons, List.not_mem_nil, or_false] at member
        rcases member with rfl | rfl | rfl | rfl | rfl
        · exact .text _ name.isScalar
        · exact .text _ declared.isScalar
        · exact .text _ label.isScalar
        · exact .integer _
        · exact .text _ generator.isScalar
      · split at member
        · rw [List.mem_singleton.mp member]
          exact .bool true
        · cases member
    · split at member
      · cases member
      · rw [List.mem_singleton.mp member]
        exact .bool false

namespace Compilation

theorem isScalar_field (event : RawEvent) (accepted : Validation.AcceptsEvent event) (field : Field)
    (member : field ∈ fieldsOf event) : field.toJson.IsScalar := by
  have usable := isUsable_of_mem_fieldsOf event accepted field member
  rcases List.mem_append.mp member with member | member
  · obtain ⟨declared, _, place, rfl⟩ := mem_fieldsFrom _ _ _ member
    refine Field.isScalar_toJson _ (Identifier.isAscii_attributeName declared.1 usable)
      (Identifier.isAscii_of_isUsable declared.1 usable) ?_
    simp only [fieldOf]
    split
    · decide
    · cases scalarOf declared.2 <;> decide
  · rw [List.mem_singleton.mp member]
    have column : Entity.creationColumn.IsAscii := by decide
    exact Field.isScalar_toJson _ column column (by decide : creationGenerator.IsAscii)

theorem isScalar_entityOf (event : RawEvent) (accepted : Validation.AcceptsEvent event)
    (scalar : event.typeLabel.IsScalar) : (entityOf event).toJson.IsScalar := by
  have between : Text.IsAscii ", " := by decide
  have template : (Entity.fragments (fieldsOf event)).1.IsAscii := by
    refine Text.isAscii_join _ _ between fun piece member => ?_
    obtain ⟨number, _, rfl⟩ := List.mem_map.mp member
    exact (by decide : Text.IsAscii "$").append (Text.isAscii_ofNat (number + 1))
  have columns : (Entity.fragments (fieldsOf event)).2.IsAscii := by
    refine Text.isAscii_join _ _ between fun piece member => ?_
    obtain ⟨field, stored, rfl⟩ := List.mem_map.mp member
    exact Identifier.isAscii_of_isUsable _ (isUsable_of_mem_fieldsOf event accepted field
      (List.mem_filter.mp stored).1)
  have usable := accepted.nameUsable
  refine .object _ (fun entry member => ?_) fun entry member => ?_ <;>
    simp only [List.mem_cons, List.not_mem_nil, or_false] at member
  · rcases member with rfl | rfl | rfl | rfl | rfl | rfl <;>
      exact Text.IsAscii.isScalar (by dsimp only; decide)
  · rcases member with rfl | rfl | rfl | rfl | rfl | rfl
    · exact .text _ (Identifier.isAscii_camelCase event.name usable).isScalar
    · exact .text _ (Identifier.isAscii_of_isUsable event.name usable).isScalar
    · exact .text _ scalar
    · refine .list _ fun item listed => ?_
      obtain ⟨field, member, rfl⟩ := List.mem_map.mp listed
      exact isScalar_field event accepted field member
    · exact .text _ template.isScalar
    · exact .text _ columns.isScalar

/-!
## The canonical text
-/

/-- The value that the canonical text of a schema writes. -/
def canonicalValue (schema : RawSchema) : Json :=
  (Json.list (((Validation.sortEvents schema.events).map entityOf).map Entity.toJson)).sorted

theorem canonicalText_schemaOf (schema : RawSchema) (path : Option Text) :
    (schemaOf schema path).canonicalText = (canonicalValue schema).compact := rfl

theorem isScalar_canonicalValue (schema : RawSchema) (accepted : Validation.Accepts schema)
    (scalar : ∀ event ∈ schema.events, event.typeLabel.IsScalar) :
    (canonicalValue schema).IsScalar := by
  refine Json.IsScalar.sorted (.list _ fun item member => ?_)
  obtain ⟨entity, listed, rfl⟩ := List.mem_map.mp member
  obtain ⟨event, sorted, rfl⟩ := List.mem_map.mp listed
  have own := (Validation.sortEvents_perm _).mem_iff.mp sorted
  exact isScalar_entityOf event (accepted.events event own) (scalar event own)

/-- Entities of accepted schemas are determined by the value that is written. -/
theorem entities_eq_of_canonicalValue (first second : RawSchema)
    (same : canonicalValue first = canonicalValue second) :
    (Validation.sortEvents first.events).map entityOf =
      (Validation.sortEvents second.events).map entityOf := by
  have lists := Json.list.inj same
  rw [Json.sortedItems_eq, Json.sortedItems_eq] at lists
  refine eq_of_map_eq (Json.sorted ∘ Entity.toJson) _ _
    (fun entity member other otherMember alike => ?_) (by rw [← List.map_map, ← List.map_map, lists])
  obtain ⟨event, _, rfl⟩ := List.mem_map.mp member
  obtain ⟨another, _, rfl⟩ := List.mem_map.mp otherMember
  exact entityOf_eq_of_toJson_sorted event another alike

/-- The canonical texts of two accepted schemas are the same exactly if their entities are, whatever
files they were read from; and so are the fingerprints unless the texts collide. -/
theorem canonicalText_identifies_entities (first second : RawSchema) (path otherPath : Option Text)
    (valid : Validation.errors first = .ok []) (otherValid : Validation.errors second = .ok [])
    (scalar : ∀ event ∈ first.events, event.typeLabel.IsScalar)
    (otherScalar : ∀ event ∈ second.events, event.typeLabel.IsScalar) :
    ∃ compiled other, compileRaw first path = .ok compiled ∧
      compileRaw second otherPath = .ok other ∧
      (compiled.canonicalText = other.canonicalText ↔ compiled.entities = other.entities) ∧
      (¬Sha256.Collide (Utf8.encodeAll compiled.canonicalText)
          (Utf8.encodeAll other.canonicalText) →
        (compiled.fingerprint = other.fingerprint ↔ compiled.entities = other.entities)) := by
  have accepted := isScalar_canonicalValue first ((Validation.errors_eq_nil_iff first).mp valid)
    scalar
  have otherAccepted := isScalar_canonicalValue second
    ((Validation.errors_eq_nil_iff second).mp otherValid) otherScalar
  refine ⟨_, _, compileRaw_eq first path valid, compileRaw_eq second otherPath otherValid, ?_⟩
  have texts : (schemaOf first path).canonicalText = (schemaOf second otherPath).canonicalText ↔
      (schemaOf first path).entities = (schemaOf second otherPath).entities := by
    constructor
    · intro same
      rw [canonicalText_schemaOf, canonicalText_schemaOf] at same
      exact entities_eq_of_canonicalValue first second
        (Json.compact_injective _ _ accepted otherAccepted same)
    · intro same
      rw [CompiledSchema.canonicalText, CompiledSchema.canonicalText, same]
  refine ⟨texts, fun apart => ⟨fun same => ?_, fun same => ?_⟩⟩
  · have digests := Sha256.eq_of_hexDigits _ _ (List.append_cancel_left same)
    have bytes := Classical.byContradiction fun differ => apart ⟨differ, digests⟩
    refine texts.mp (Utf8.eq_of_encodeAll _ _ ?_ ?_ bytes)
    · exact (Json.isAscii_compact _ accepted).isScalar
    · exact (Json.isAscii_compact _ otherAccepted).isScalar
  · rw [CompiledSchema.fingerprint, CompiledSchema.fingerprint, texts.mpr same]

theorem labels_tell_schemas_apart : ∃ compiled other,
    compileRaw (labelledSchema "\"") none = .ok compiled ∧
      compileRaw (labelledSchema "😀") (some "events.json") = .ok other ∧
      compiled.canonicalText ≠ other.canonicalText := by
  obtain ⟨compiled, other, made, otherMade, texts, _⟩ := canonicalText_identifies_entities
    (labelledSchema "\"") (labelledSchema "😀") none (some "events.json") (valid_labelledSchema _)
    (valid_labelledSchema _)
    (by simp only [labelledSchema, List.mem_singleton, forall_eq]; decide)
    (by simp only [labelledSchema, List.mem_singleton, forall_eq]; decide)
  refine ⟨compiled, other, made, otherMade, fun same => ?_⟩
  have single (label : Text) (path : Option Text) :
      (schemaOf (labelledSchema label) path).entities.map Entity.typeLabel = [label] := by
    simp [schemaOf, labelledSchema, Validation.sortEvents, entityOf]
  have labels := congrArg (List.map Entity.typeLabel) (texts.mp same)
  rw [(of_compileRaw _ _ _ made).2, (of_compileRaw _ _ _ otherMade).2, single, single] at labels
  exact absurd labels (by decide)

end Compilation

end EventForge
