import EventForge.Proofs.Schema.Compilation
import EventForge.Proofs.Schema.Parsing

/-!
# What a document declares

An accepted document has one entity for each of its events.  The keys under which an event declares
its fields need not be texts: each field bears the text of its key, and keys with the same text make
one field, which has the type of the last of them.
-/

namespace EventForge

namespace Source

/-!
## Keys with the same text
-/

/-- The last document under a key with a text. -/
def lastUnder? (name : Text) (entries : List (Document × Document)) : Option Document :=
  (entries.reverse.find? fun entry => entry.1.plain = name).map Prod.snd

theorem lastUnder?_cons (name : Text) (entry : Document × Document)
    (entries : List (Document × Document)) :
    lastUnder? name (entry :: entries) =
      (lastUnder? name entries).or (if entry.1.plain = name then some entry.2 else none) := by
  simp only [lastUnder?, List.reverse_cons, List.find?_append]
  cases entries.reverse.find? fun entry => entry.1.plain = name with
  | some found => rfl
  | none =>
      by_cases same : entry.1.plain = name <;> simp [same]

theorem lastUnder?_isSome_iff (name : Text) (entries : List (Document × Document)) :
    (lastUnder? name entries).isSome = true ↔ ∃ entry ∈ entries, entry.1.plain = name := by
  simp [lastUnder?]

/-- Each field has what stands last under its name. -/
theorem get?_keyed (name : Text) (entries : List (Document × Document)) (fields : Fields Document) :
    (keyed entries fields).get? name = (lastUnder? name entries).or (fields.get? name) := by
  induction entries generalizing fields with
  | nil => rfl
  | cons entry entries ih =>
      rw [keyed, List.foldl_cons, ← keyed, ih, Fields.get?_insert, lastUnder?_cons]
      cases lastUnder? name entries with
      | some found => rfl
      | none => by_cases same : entry.1.plain = name <;> simp [same]

theorem keyed_names_nodup (entries : List (Document × Document)) :
    ((keyed entries []).map Prod.fst).Nodup := by
  have kept (fields : Fields Document) (distinct : (fields.map Prod.fst).Nodup) :
      ((keyed entries fields).map Prod.fst).Nodup := by
    induction entries generalizing fields with
    | nil => exact distinct
    | cons entry entries ih => exact ih _ (Fields.insert_names_nodup _ _ _ distinct)
  exact kept [] List.nodup_nil

/-- The names of the fields are the texts of the keys, each once. -/
theorem keyed_names_perm (entries : List (Document × Document)) :
    ((keyed entries []).map Prod.fst).Perm (entries.map fun entry => entry.1.plain).dedup := by
  refine (List.perm_ext_iff_of_nodup (keyed_names_nodup entries) (List.nodup_dedup _)).mpr ?_
  intro name
  have found := Fields.get?_isSome_iff (keyed entries []) name
  rw [get?_keyed, Fields.get?_nil, Option.or_none, lastUnder?_isSome_iff] at found
  rw [List.mem_dedup, List.mem_map, List.mem_map]
  exact found.symm

/-- Whether fields are those declared by some entries: one for each text of a key, with the type that
stands last under it.  They are one for each entry exactly if no two keys have the same text. -/
structure AreDeclared (entries : List (Document × Document)) (fields : List Field) : Prop where
  names : (fields.map Field.declaredName).Perm (entries.map fun entry => entry.1.plain).dedup
  types : ∀ field ∈ fields,
    lastUnder? field.declaredName entries = some (.text field.type.label)
  oneEach : (entries.map fun entry => entry.1.plain).Nodup ↔
    (fields.map fun field => (field.declaredName, Document.text field.type.label)).Perm
      (entries.map fun entry => (entry.1.plain, entry.2))

/-- Whether an entity is the one that a key and a definition declare. -/
structure IsDeclared (entry : Document × Document) (entity : Entity) : Prop where
  named : entry.1 = .text entity.declaredName
  fields : ∃ definition mapping declared own, entry.2.opened = .mapping definition ∧
    Document.lookup? "type_mapping" definition = some mapping ∧
    mapping.opened = .mapping declared ∧ AreDeclared declared own ∧
    entity.fields = own ++ [Compilation.creationAt own.length]

/-!
## Declarations of accepted events
-/

theorem declaredNames_fieldsFrom (position : Nat) (fields : Fields Document) :
    (Compilation.fieldsFrom position fields).map Field.declaredName = fields.map Prod.fst :=
  Compilation.map_fieldsFrom position fields Field.declaredName Prod.fst fun _ _ _ => rfl

/-- The fields of an accepted event, with the types that they name. -/
theorem views_fieldsFrom (position : Nat) (fields : Fields Document)
    (registered : ∀ field ∈ fields, ScalarType.isRegistered field.2 = true) :
    (Compilation.fieldsFrom position fields).map
      (fun field => (field.declaredName, Document.text field.type.label)) = fields := by
  have views := Compilation.map_fieldsFrom position fields
    (fun field => (field.declaredName, Document.text field.type.label)) id (by
      intro field member place
      have named := (Compilation.eq_label_of_isRegistered field.2 (registered field member)).2
      exact Prod.ext rfl named.symm)
  rwa [List.map_id] at views

theorem areDeclared_fieldsFrom (event : RawEvent) (accepted : Validation.AcceptsEvent event)
    (entries : List (Document × Document)) (read : event.typeMapping = keyed entries []) :
    AreDeclared entries
      (Compilation.fieldsFrom 0 (Validation.sortFields event.typeMapping)) := by
  have perm := Validation.sortFields_perm event.typeMapping
  have registered : ∀ field ∈ Validation.sortFields event.typeMapping,
      ScalarType.isRegistered field.2 = true :=
    fun field member => accepted.typesRegistered field (perm.mem_iff.mp member)
  have views := views_fieldsFrom 0 _ registered
  have names := (perm.map Prod.fst).trans (read ▸ keyed_names_perm entries)
  refine ⟨?_, ?_, ?_⟩
  · rw [declaredNames_fieldsFrom]
    exact names
  · intro field member
    have viewed : (field.declaredName, Document.text field.type.label) ∈ event.typeMapping := by
      refine perm.mem_iff.mp (views ▸ ?_)
      exact List.mem_map_of_mem (f := fun field : Field =>
        (field.declaredName, Document.text field.type.label)) member
    have found := Fields.get?_of_mem _ (read ▸ keyed_names_nodup entries) _ viewed
    rwa [read, get?_keyed, Fields.get?_nil, Option.or_none] at found
  · rw [views]
    constructor
    · intro distinct
      rw [← keyed_eq_map entries distinct, ← read]
      exact perm
    · intro each
      have same := each.map Prod.fst
      rw [List.map_map] at same
      have once := (names.nodup_iff).mpr (List.nodup_dedup _)
      exact same.nodup_iff.mp once

/-- Where fields are read at all, they stand in a mapping under `type_mapping`. -/
theorem mapping_of_declaredFields (event : Text) (definition : List (Document × Document))
    (declared : List (Document × Document)) (found : declaredFields event definition = .ok declared)
    (inhabited : declared ≠ []) :
    ∃ mapping, Document.lookup? "type_mapping" definition = some mapping ∧
      mapping.opened = .mapping declared := by
  unfold declaredFields at found
  cases looked : Document.lookup? "type_mapping" definition with
  | none =>
      rw [looked] at found
      exact absurd (Except.ok.inj found).symm inhabited
  | some mapping =>
      refine ⟨mapping, rfl, ?_⟩
      rw [looked, Option.map_some] at found
      cases content : mapping.opened with
      | mapping entries =>
          rw [content] at found
          rw [Except.ok.inj found]
      | null =>
          rw [content] at found
          exact absurd (Except.ok.inj found).symm inhabited
      | _ =>
          rw [content] at found
          cases found

/-- An accepted event is compiled to the entity that its key and definition declare. -/
theorem isDeclared_entityOf (entry : Document × Document) (event : RawEvent)
    (read : parseEvent entry.1 entry.2 = .ok event) (accepted : Validation.AcceptsEvent event) :
    IsDeclared entry (Compilation.entityOf event) := by
  obtain ⟨named, definition, declared, opens, found, _, mapped⟩ :=
    (parseEvent_eq_ok_iff _ _ _).mp read
  obtain ⟨_, fields⟩ := (textKeys_eq_ok_iff _ _).mp mapped
  -- An event without fields lacks the time, so that its fields are declared by a mapping.
  have inhabited : declared ≠ [] := by
    rintro rfl
    obtain ⟨field, member, _⟩ := accepted.hasTime
    rw [fields] at member
    cases member
  obtain ⟨mapping, looked, content⟩ := mapping_of_declaredFields _ definition declared found inhabited
  refine ⟨named, definition, mapping, declared, _, opens, looked, content,
    areDeclared_fieldsFrom event accepted declared fields, ?_⟩
  rw [Compilation.fieldsFrom_length, (Validation.sortFields_perm event.typeMapping).length_eq]
  rfl

/-- A document that is read and compiles has an entity for each of its events and no others, each with
the fields that its event declares and the time of creation behind them. -/
theorem declarations_become_fields {document : Document} {path sourcePath : Option Text}
    {schema : RawSchema} {compiled : CompiledSchema} (read : parse document path = .ok schema)
    (made : Compilation.compileRaw schema sourcePath = .ok compiled) :
    ∃ entries, (document.opened = .mapping entries ∨ document.opened = .null ∧ entries = []) ∧
      ∃ entities, entities.Perm compiled.entities ∧ List.Forall₂ IsDeclared entries entities := by
  obtain ⟨accepted, rfl⟩ := Compilation.of_compileRaw schema sourcePath compiled made
  have perm := (Validation.sortEvents_perm schema.events).map Compilation.entityOf
  cases opens : document.opened with
  | null =>
      simp only [parse, opens, Except.ok.injEq] at read
      subst read
      exact ⟨[], .inr ⟨rfl, rfl⟩, [], perm.symm, .nil⟩
  | mapping entries =>
      simp only [parse, opens, Outcome.bind_eq_ok_iff, Outcome.pure_eq_ok, Except.ok.injEq] at read
      obtain ⟨events, read, rfl⟩ := read
      refine ⟨entries, .inl rfl, events.map Compilation.entityOf, perm.symm, ?_⟩
      rw [List.forall₂_map_right_iff]
      have each := (Outcome.mapM_eq_ok_iff _ _ _).mp read
      have both := ((List.forall₂_and_left _ _).mpr ⟨accepted.events, each.flip⟩).flip
      exact both.imp fun entry event both => isDeclared_entityOf entry event both.2 both.1
  | _ => simp [parse, opens] at read

/-- An event that declares two fields under keys with the same text, which are not the same. -/
def mergingDocument : Document :=
  .mapping [(.text "login", .mapping [(.text "type_mapping", .mapping
    [(.text "time", .text "timestamp"), (.bool true, .text "int"),
      (.text "True", .text "bigint")])])]

/-- The event that is read, in which the first of the two fields is lost. -/
def mergedEvent : RawEvent :=
  { name := "login", typeLabel := []
    typeMapping := [("time", .text "timestamp"), ("True", .text "bigint")] }

theorem parse_mergingDocument :
    parse mergingDocument none = .ok { events := [mergedEvent], path := none } := rfl

theorem accepts_mergedEvent : Validation.Accepts { events := [mergedEvent], path := none } where
  events event member := by
    obtain rfl := List.mem_singleton.mp member
    have lowered : Text.toAsciiLower "True" = "true" := by decide
    have truth : Identifier.isUsable "True" = true :=
      (Identifier.isUsable_iff _).mpr ⟨by decide,
        by rw [lowered]; simp [Identifier.databaseWords, Text.ofString_inj], by decide⟩
    exact ⟨Identifier.isUsable_login, by simp [mergedEvent, Identifier.isUsable_time, truth],
      by decide +kernel, ⟨_, List.mem_cons_self .., rfl⟩, by decide +kernel, by decide +kernel,
      by decide +kernel⟩
  classesDistinct := List.nodup_singleton _
  tablesDistinct := List.nodup_singleton _

theorem mergingDocument_declares : ∃ schema compiled, parse mergingDocument none = .ok schema ∧
    Compilation.compileRaw schema none = .ok compiled ∧
    ∃ entries, (mergingDocument.opened = .mapping entries ∨
        mergingDocument.opened = .null ∧ entries = []) ∧
      ∃ entities, entities.Perm compiled.entities ∧ List.Forall₂ IsDeclared entries entities := by
  have made := Compilation.compileRaw_eq _ none
    ((Validation.errors_eq_nil_iff _).mpr accepts_mergedEvent)
  exact ⟨_, _, parse_mergingDocument, made, declarations_become_fields parse_mergingDocument made⟩

/-- Two of the three keys of an accepted event make one field, and the type of the first of them is
lost. -/
theorem mergingDocument_loses_field : ∃ schema compiled, parse mergingDocument none = .ok schema ∧
    Compilation.compileRaw schema none = .ok compiled ∧
    ∀ entity ∈ compiled.entities, entity.fields.length = 3 ∧
      ∀ field ∈ entity.fields, field.type ≠ .integer := by
  have made := Compilation.compileRaw_eq _ none
    ((Validation.errors_eq_nil_iff _).mpr accepts_mergedEvent)
  refine ⟨_, _, parse_mergingDocument, made, ?_⟩
  intro entity member
  obtain ⟨event, eventMember, rfl⟩ := List.mem_map.mp member
  have perm := Validation.sortEvents_perm [mergedEvent]
  obtain rfl := List.mem_singleton.mp (perm.mem_iff.mp eventMember)
  constructor
  · rw [Compilation.entityOf, Compilation.fieldsOf, List.length_append,
      Compilation.fieldsFrom_length,
      (Validation.sortFields_perm mergedEvent.typeMapping).length_eq]
    rfl
  · intro field fieldMember
    rcases List.mem_append.mp fieldMember with own | creation
    · obtain ⟨declared, declaredMember, place, rfl⟩ := Compilation.mem_fieldsFrom _ _ _ own
      have listed := (Validation.sortFields_perm mergedEvent.typeMapping).mem_iff.mp declaredMember
      obtain rfl | rfl : declared = _ ∨ declared = _ := by simpa [mergedEvent] using listed
      · change Compilation.scalarOf (.text "timestamp") ≠ .integer
        decide
      · change Compilation.scalarOf (.text "bigint") ≠ .integer
        decide
    · obtain rfl := List.mem_singleton.mp creation
      decide

end Source

end EventForge
