import EventForge.Module.Writer
import EventForge.Proofs.Load.Attempts
import EventForge.Proofs.Schema.Compilation
import EventForge.Proofs.Schema.Parsing
import Mathlib.Data.List.Perm.Basic

/-!
# The order of a source

A source may list its events in any order, and the fields of each event as well.  Validation and
compilation visit both in the order of their names, so that their results depend on a form of the
schema in which everything stands in this order; and so do the loops that work on the compiled events.
-/

namespace EventForge

/-!
## Schemas in order
-/

/-- An event with its fields in the order of their names. -/
def RawEvent.inOrder (event : RawEvent) : RawEvent :=
  { event with typeMapping := Validation.sortFields event.typeMapping }

/-- The events of a schema in the order of their names, and their fields likewise. -/
def RawSchema.inOrder (schema : RawSchema) : List RawEvent :=
  Validation.sortEvents (schema.events.map RawEvent.inOrder)

/-- Events with distinct names are in the same order, however they were listed. -/
theorem RawSchema.inOrder_eq_of_perm {first second : RawSchema}
    (perm : (first.events.map RawEvent.inOrder).Perm (second.events.map RawEvent.inOrder))
    (distinct : (first.events.map RawEvent.name).Nodup) : first.inOrder = second.inOrder := by
  refine Text.sortBy_eq_of_perm RawEvent.name perm ?_
  rw [List.map_map]
  exact distinct

theorem RawSchema.inOrder_eq (schema : RawSchema) :
    schema.inOrder = (Validation.sortEvents schema.events).map RawEvent.inOrder := by
  rw [inOrder, Validation.sortEvents, Validation.sortEvents, List.map_mergeSort]
  intro first _ second _
  rfl

namespace Validation

theorem sortFields_sortFields (fields : Fields Document) :
    sortFields (sortFields fields) = sortFields fields :=
  List.mergeSort_of_pairwise (List.pairwise_map.mp (Text.sortBy_pairwise Prod.fst fields))

/-- The errors of an event are those of its form in order. -/
theorem eventErrors_inOrder (event : RawEvent) : eventErrors event.inOrder = eventErrors event := by
  have timed : (event.inOrder.typeMapping.get? timeName).isSome =
      (event.typeMapping.get? timeName).isSome := by
    rw [Bool.eq_iff_iff, Fields.get?_isSome_iff, Fields.get?_isSome_iff]
    simp only [RawEvent.inOrder, (sortFields_perm event.typeMapping).mem_iff]
  unfold eventErrors
  rw [timed]
  simp only [RawEvent.inOrder, sortFields_sortFields]
  rfl

theorem eventsErrors_inOrder (named : Named) (events : List RawEvent) :
    eventsErrors named (events.map RawEvent.inOrder) = eventsErrors named events := by
  induction events generalizing named with
  | nil => rfl
  | cons event events ih =>
      simp only [List.map_cons, eventsErrors, eventErrors_inOrder]
      simp only [RawEvent.inOrder, ih]

/-- The errors of a schema depend on its form in order only. -/
theorem errors_eq_inOrder (schema : RawSchema) :
    errors schema = eventsErrors { classes := [], tables := [] } schema.inOrder := by
  rw [schema.inOrder_eq, eventsErrors_inOrder]
  rfl

end Validation

namespace Compilation

theorem entityOf_inOrder (event : RawEvent) : entityOf event.inOrder = entityOf event := by
  have fields : fieldsOf event.inOrder = fieldsOf event := by
    simp only [fieldsOf, RawEvent.inOrder, Validation.sortFields_sortFields,
      (Validation.sortFields_perm event.typeMapping).length_eq]
  simp only [entityOf, fields]
  rfl

/-- What is compiled from a schema depends on its form in order and on the path only. -/
theorem schemaOf_eq_inOrder (schema : RawSchema) (sourcePath : Option Text) :
    schemaOf schema sourcePath =
      { entities := schema.inOrder.map entityOf, sourcePath := sourcePath <|> schema.path } := by
  simp only [schemaOf, schema.inOrder_eq, List.map_map, Function.comp_def, entityOf_inOrder]

/-- Schemas with the same form in order compile alike, with a path that is the same in the end. -/
theorem compileRaw_of_inOrder {first second : RawSchema} (same : first.inOrder = second.inOrder)
    {sourcePath otherSource : Option Text}
    (path : (sourcePath <|> first.path) = (otherSource <|> second.path)) :
    compileRaw first sourcePath = compileRaw second otherSource := by
  rw [compileRaw_eq_errors, compileRaw_eq_errors, Validation.errors_eq_inOrder,
    Validation.errors_eq_inOrder, schemaOf_eq_inOrder, schemaOf_eq_inOrder, same, path]

/-- The events of an accepted schema have distinct names. -/
theorem constructors_nodup (schema : RawSchema) (accepted : Validation.Accepts schema)
    (sourcePath : Option Text) :
    ((EventModule.ofCompiled (schemaOf schema sourcePath)).constructors.map Prod.fst).Nodup := by
  have names : (EventModule.ofCompiled (schemaOf schema sourcePath)).constructors.map Prod.fst =
      (Validation.sortEvents schema.events).map RawEvent.name := by
    simp only [EventModule.constructors, EventModule.ofCompiled, schemaOf, List.map_map]
    rfl
  have tables := accepted.tablesDistinct
  rw [List.nodup_iff_pairwise_ne, List.pairwise_map] at tables
  rw [names, ((Validation.sortEvents_perm schema.events).map _).nodup_iff,
    List.nodup_iff_pairwise_ne, List.pairwise_map]
  exact tables.imp fun apart same => apart (by rw [same])

end Compilation

/-!
## Sources in another order
-/

namespace Source

/-- Whether two declarations of fields, if there are any, have the same fields in some order. -/
inductive SameFields : Option Document → Option Document → Prop
  | unchanged (declared : Option Document) : SameFields declared declared
  | reordered {first second : Document} {firstFields secondFields : List (Document × Document)}
      (firstOpens : first.opened = .mapping firstFields)
      (secondOpens : second.opened = .mapping secondFields)
      (keys : HasTextKeys firstFields) (perm : firstFields.Perm secondFields) :
      SameFields (some first) (some second)

/-- Whether two definitions have the same type label, and the same fields in some order. -/
inductive SameDefinition : Document → Document → Prop
  | unchanged (definition : Document) : SameDefinition definition definition
  | reordered {first second : Document} {firstEntries secondEntries : List (Document × Document)}
      (firstOpens : first.opened = .mapping firstEntries)
      (secondOpens : second.opened = .mapping secondEntries)
      (label : Document.lookup? "type" firstEntries = Document.lookup? "type" secondEntries)
      (fields : SameFields (Document.lookup? "type_mapping" firstEntries)
        (Document.lookup? "type_mapping" secondEntries)) : SameDefinition first second

/-- Whether two documents define the same events, up to the order of these and of their fields. -/
inductive Rearranged : Document → Document → Prop
  | unchanged (document : Document) : Rearranged document document
  | reordered {first second : Document}
      {firstEvents arranged secondEvents : List (Document × Document)}
      (firstOpens : first.opened = .mapping firstEvents)
      (secondOpens : second.opened = .mapping secondEvents)
      (keys : HasTextKeys firstEvents) (perm : firstEvents.Perm arranged)
      (each : List.Forall₂ (fun event other => event.1 = other.1 ∧ SameDefinition event.2 other.2)
        arranged secondEvents) : Rearranged first second

theorem SameFields.symm {first second : Option Document} (fields : SameFields first second) :
    SameFields second first := by
  cases fields with
  | unchanged => exact .unchanged _
  | reordered firstOpens secondOpens keys perm =>
      exact .reordered secondOpens firstOpens (keys.of_perm perm) perm.symm

theorem SameDefinition.symm {first second : Document} (event : SameDefinition first second) :
    SameDefinition second first := by
  cases event with
  | unchanged => exact .unchanged _
  | reordered firstOpens secondOpens label fields =>
      exact .reordered secondOpens firstOpens label.symm fields.symm

theorem Rearranged.symm {first second : Document} (rearranged : Rearranged first second) :
    Rearranged second first := by
  cases rearranged with
  | unchanged => exact .unchanged _
  | @reordered _ firstEvents arranged secondEvents firstOpens secondOpens keys perm each =>
      have back : List.Forall₂
          (fun event other => event.1 = other.1 ∧ SameDefinition event.2 other.2)
          secondEvents arranged :=
        each.flip.imp fun event other same => ⟨same.1.symm, same.2.symm⟩
      have names : arranged.map Prod.fst = secondEvents.map Prod.fst := by
        rw [← List.forall₂_eq_eq_eq, List.forall₂_map_left_iff, List.forall₂_map_right_iff]
        exact each.imp fun event other same => same.1
      have arrangedKeys := keys.of_perm perm
      have secondKeys : HasTextKeys secondEvents := by
        refine ⟨fun entry member => ?_, names ▸ arrangedKeys.distinct⟩
        obtain ⟨event, eventMember, same⟩ := List.mem_map.mp
          (names ▸ List.mem_map_of_mem (f := Prod.fst) member)
        rw [← same]
        exact arrangedKeys.texts event eventMember
      obtain ⟨moved, perm', each'⟩ : ∃ moved, secondEvents.Perm moved ∧ List.Forall₂
          (fun event other => event.1 = other.1 ∧ SameDefinition event.2 other.2)
          moved firstEvents := by
        obtain ⟨moved, each', perm'⟩ := List.perm_comp_forall₂ perm each
        exact ⟨moved, perm'.symm, each'.flip.imp fun event other same =>
          ⟨same.1.symm, same.2.symm⟩⟩
      exact .reordered secondOpens firstOpens secondKeys perm' each'

/-- Fields are read alike from the same fields in another order. -/
theorem declaredFields_of_same (event : Text) {first second : List (Document × Document)}
    (same : SameFields (Document.lookup? "type_mapping" first)
      (Document.lookup? "type_mapping" second))
    (declared : List (Document × Document)) (found : declaredFields event first = .ok declared)
    (fields : Fields Document) (read : textKeys declared = .ok fields) :
    ∃ others otherFields, declaredFields event second = .ok others ∧
      textKeys others = .ok otherFields ∧
      Validation.sortFields otherFields = Validation.sortFields fields := by
  unfold declaredFields at found ⊢
  generalize Document.lookup? "type_mapping" first = firstMapping at *
  generalize Document.lookup? "type_mapping" second = secondMapping at *
  cases same with
  | unchanged => exact ⟨declared, fields, found, read, rfl⟩
  | @reordered firstMapping secondMapping firstFields secondFields firstOpens secondOpens keys perm =>
      simp only [Option.map_some, firstOpens, secondOpens, Except.ok.injEq] at found ⊢
      subst found
      obtain ⟨shown, rfl⟩ := (textKeys_eq_ok_iff _ _).mp read
      have distinct := keys.plain_nodup
      refine ⟨secondFields, keyed secondFields [], rfl, (textKeys_eq_ok_iff _ _).mpr
        ⟨fun entry member => shown entry (perm.mem_iff.mpr member), rfl⟩, ?_⟩
      rw [keyed_eq_map _ distinct, keyed_eq_map _ ((perm.map _).nodup_iff.mp distinct)]
      refine (Text.sortBy_eq_of_perm Prod.fst (perm.map _) ?_).symm
      rw [List.map_map]
      exact distinct

/-- An event is read alike from the same definition in another order. -/
theorem parseEvent_of_same (key : Document) {first second : Document}
    (same : SameDefinition first second) (event : RawEvent)
    (read : parseEvent key first = .ok event) :
    ∃ other, parseEvent key second = .ok other ∧ other.inOrder = event.inOrder := by
  cases same with
  | unchanged => exact ⟨event, read, rfl⟩
  | reordered firstOpens secondOpens label fields =>
      obtain ⟨rfl, entries, declared, opens, found, labelled, mapped⟩ :=
        (parseEvent_eq_ok_iff _ _ _).mp read
      obtain rfl := Document.mapping.inj (firstOpens.symm.trans opens)
      obtain ⟨others, otherFields, otherFound, otherMapped, inOrder⟩ :=
        declaredFields_of_same event.name fields declared found event.typeMapping mapped
      refine ⟨{ event with typeMapping := otherFields }, (parseEvent_eq_ok_iff _ _ _).mpr
        ⟨rfl, _, others, secondOpens, otherFound, ?_, otherMapped⟩, ?_⟩
      · rw [labelOf, ← label]
        exact labelled
      · simp only [RawEvent.inOrder, inOrder]

theorem parseEvents_of_same {first second : List (Document × Document)}
    (each : List.Forall₂ (fun event other => event.1 = other.1 ∧ SameDefinition event.2 other.2)
      first second)
    (events : List RawEvent) (read : List.Forall₂
      (fun (entry : Document × Document) event => parseEvent entry.1 entry.2 = .ok event)
      first events) :
    ∃ others, List.Forall₂
        (fun (entry : Document × Document) event => parseEvent entry.1 entry.2 = .ok event)
        second others ∧
      others.map RawEvent.inOrder = events.map RawEvent.inOrder := by
  induction each generalizing events with
  | nil =>
      cases read
      exact ⟨[], .nil, rfl⟩
  | @cons entry other entries others same each ih =>
      obtain ⟨key, definition⟩ := same
      cases read with
      | @cons _ event _ events own read =>
          obtain ⟨found, parsed, inOrder⟩ := parseEvent_of_same entry.1 definition event own
          obtain ⟨rest, parsedRest, restInOrder⟩ := ih events read
          exact ⟨found :: rest, .cons (key ▸ parsed) parsedRest, by
            rw [List.map_cons, List.map_cons, inOrder, restInOrder]⟩

/-- A schema is read alike from the same source in another order. -/
theorem parse_of_rearranged {first second : Document} (rearranged : Rearranged first second)
    (path otherPath : Option Text) (schema : RawSchema) (read : parse first path = .ok schema) :
    ∃ other, parse second otherPath = .ok other ∧ schema.inOrder = other.inOrder := by
  cases rearranged with
  | unchanged => exact ⟨{ schema with path := otherPath }, by rw [parse_path first path, read]; rfl, rfl⟩
  | @reordered _ firstEvents arranged secondEvents firstOpens secondOpens keys perm each =>
      simp only [parse, firstOpens, Outcome.bind_eq_ok_iff, Outcome.pure_eq_ok, Except.ok.injEq]
        at read
      obtain ⟨events, read, rfl⟩ := read
      have read := (Outcome.mapM_eq_ok_iff _ _ _).mp read
      obtain ⟨moved, readMoved, movedPerm⟩ := List.perm_comp_forall₂ perm.symm read
      obtain ⟨others, readOthers, inOrder⟩ := parseEvents_of_same each moved readMoved
      refine ⟨{ events := others, path := otherPath }, ?_, ?_⟩
      · simp [parse, secondOpens, (Outcome.mapM_eq_ok_iff _ _ _).mpr readOthers]
      · refine RawSchema.inOrder_eq_of_perm ?_ ?_
        · rw [inOrder]
          exact (movedPerm.map _).symm
        · have names : firstEvents.map Prod.fst =
              events.map fun event => Document.text event.name := by
            rw [← List.forall₂_eq_eq_eq, List.forall₂_map_left_iff, List.forall₂_map_right_iff]
            exact read.imp fun entry event own => ((parseEvent_eq_ok_iff _ _ _).mp own).1
          have distinct := keys.distinct
          rw [names] at distinct
          exact List.Nodup.of_map Document.text (by rwa [List.map_map])

/-- The order of a source plays no part: it has the same errors, it compiles to the same entities,
fingerprint and module, and loops over the module make the same events. -/
theorem order_plays_no_part {first second : Document} (rearranged : Rearranged first second)
    (path otherPath : Option Text) :
    ((∃ schema, parse first path = .ok schema) ↔ ∃ other, parse second otherPath = .ok other) ∧
      ∀ schema other, parse first path = .ok schema → parse second otherPath = .ok other →
        Validation.errors schema = Validation.errors other ∧
        ∀ sourcePath otherSource, (sourcePath <|> path) = (otherSource <|> otherPath) →
          Compilation.compileRaw schema sourcePath = Compilation.compileRaw other otherSource ∧
          (Validation.errors schema = .ok [] → ∃ compiled same,
            Compilation.compileRaw schema sourcePath = .ok compiled ∧
            Compilation.compileRaw other otherSource = .ok same ∧
            compiled.entities = same.entities ∧ compiled.fingerprint = same.fingerprint ∧
            ModuleText.write (.ofCompiled compiled) = ModuleText.write (.ofCompiled same) ∧
            ∀ types others, types.Perm (EventModule.ofCompiled compiled).constructors →
              others.Perm (EventModule.ofCompiled same).constructors →
              ∀ kind seed clocks,
                (LoadLoop.make kind types seed).map (fun loop => loop.attempts clocks) =
                  (LoadLoop.make kind others seed).map fun loop => loop.attempts clocks) := by
  refine ⟨⟨?_, ?_⟩, ?_⟩
  · rintro ⟨schema, read⟩
    obtain ⟨other, found, _⟩ := parse_of_rearranged rearranged path otherPath schema read
    exact ⟨other, found⟩
  · rintro ⟨other, read⟩
    obtain ⟨schema, found, _⟩ := parse_of_rearranged rearranged.symm otherPath path other read
    exact ⟨schema, found⟩
  · intro schema other read otherRead
    obtain ⟨found, foundRead, same⟩ := parse_of_rearranged rearranged path otherPath schema read
    obtain rfl : found = other := Except.ok.inj (foundRead.symm.trans otherRead)
    have errors : Validation.errors schema = Validation.errors found := by
      rw [Validation.errors_eq_inOrder, Validation.errors_eq_inOrder, same]
    refine ⟨errors, fun sourcePath otherSource paths => ?_⟩
    rw [← path_of_parse read, ← path_of_parse otherRead] at paths
    have compiled := Compilation.compileRaw_of_inOrder same paths
    refine ⟨compiled, fun valid => ?_⟩
    have made := Compilation.compileRaw_eq schema sourcePath valid
    have otherMade := compiled.symm.trans made
    refine ⟨_, _, made, otherMade, rfl, rfl, rfl, ?_⟩
    intro types others perm otherPerm kind seed clocks
    have accepted := (Validation.errors_eq_nil_iff schema).mp valid
    have distinct := Compilation.constructors_nodup schema accepted sourcePath
    rw [LoadLoop.make_of_perm kind (perm.trans otherPerm.symm)
      ((perm.map Prod.fst).nodup_iff.mpr distinct)]

/-- A definition of an event with some fields. -/
def definitionOf (fields : List (Document × Document)) : Document :=
  .mapping [(.text "type", .text "t"), (.text "type_mapping", .mapping fields)]

theorem sameDefinition_of_perm {first second : List (Document × Document)}
    (keys : HasTextKeys first) (perm : first.Perm second) :
    SameDefinition (definitionOf first) (definitionOf second) := by
  have label (fields : List (Document × Document)) : Document.lookup? "type"
      [(.text "type", .text "t"), (.text "type_mapping", .mapping fields)] =
        some (.text "t") := rfl
  have mapping (fields : List (Document × Document)) : Document.lookup? "type_mapping"
      [(.text "type", .text "t"), (.text "type_mapping", .mapping fields)] =
        some (.mapping fields) := rfl
  refine .reordered rfl rfl ((label first).trans (label second).symm) ?_
  rw [mapping, mapping]
  exact .reordered rfl rfl keys perm

/-- The document of two events. -/
def sessionDocument : Document :=
  .mapping
    [(.text "login", definitionOf
      [(.text "time", .text "timestamp"), (.text "user", .text "int")]),
    (.text "logout", definitionOf [(.text "time", .text "timestamp")])]

/-- The same events the other way round, as are the fields of the first of them. -/
def reversedDocument : Document :=
  .mapping
    [(.text "logout", definitionOf [(.text "time", .text "timestamp")]),
    (.text "login", definitionOf
      [(.text "user", .text "int"), (.text "time", .text "timestamp")])]

theorem rearranged_sessionDocument : Rearranged sessionDocument reversedDocument := by
  have events : HasTextKeys [(.text "login", definitionOf
      [(.text "time", .text "timestamp"), (.text "user", .text "int")]),
      (.text "logout", definitionOf [(.text "time", .text "timestamp")])] :=
    ⟨by simp, by simp [Text.ofString_inj]⟩
  have fields : HasTextKeys [(.text "time", .text "timestamp"), (.text "user", .text "int")] :=
    ⟨by simp, by simp [Text.ofString_inj]⟩
  have login := sameDefinition_of_perm fields (.swap _ _ _)
  exact .reordered rfl rfl events (.swap _ _ _)
    (.cons ⟨rfl, .unchanged _⟩ (.cons ⟨rfl, login⟩ .nil))

/-- The schema of the document of two events. -/
def sessionSchema : RawSchema :=
  { events :=
      [{ name := "login", typeLabel := "t"
         typeMapping := [("time", .text "timestamp"), ("user", .text "int")] },
      { name := "logout", typeLabel := "t", typeMapping := [("time", .text "timestamp")] }]
    path := none }

theorem accepts_sessionSchema : Validation.Accepts sessionSchema where
  events event member := by
    have user : Identifier.isUsable "user" = true :=
      Identifier.isUsable_of_lower _ (by decide) (by decide)
        (by simp [Identifier.databaseWords, Text.ofString_inj]) (by decide)
    obtain rfl | rfl : event = _ ∨ event = _ := by simpa [sessionSchema] using member
    · exact ⟨Identifier.isUsable_login, by simp [Identifier.isUsable_time, user], by decide +kernel,
        ⟨_, List.mem_cons_self .., rfl⟩, by decide +kernel, by decide +kernel, by decide +kernel⟩
    · exact ⟨Identifier.isUsable_logout, by simp [Identifier.isUsable_time], by decide +kernel,
        ⟨_, List.mem_cons_self .., rfl⟩, by decide +kernel, by decide +kernel, by decide +kernel⟩
  classesDistinct := by decide +kernel
  tablesDistinct := by decide +kernel

theorem sessionDocument_in_any_order : Rearranged sessionDocument reversedDocument ∧
    ∃ schema other, parse sessionDocument none = .ok schema ∧
      parse reversedDocument none = .ok other ∧
      ∃ compiled same, Compilation.compileRaw schema none = .ok compiled ∧
        Compilation.compileRaw other none = .ok same ∧
        ModuleText.write (.ofCompiled compiled) = ModuleText.write (.ofCompiled same) := by
  obtain ⟨parses, alike⟩ := order_plays_no_part rearranged_sessionDocument none none
  have read : parse sessionDocument none = .ok sessionSchema := rfl
  obtain ⟨other, otherRead⟩ := parses.mp ⟨_, read⟩
  obtain ⟨_, compiles⟩ := alike _ other read otherRead
  obtain ⟨_, valid⟩ := compiles none none rfl
  obtain ⟨compiled, same, made, otherMade, _, _, text, _⟩ :=
    valid ((Validation.errors_eq_nil_iff _).mpr accepts_sessionSchema)
  exact ⟨rearranged_sessionDocument, _, other, read, otherRead, compiled, same, made, otherMade, text⟩

end Source

end EventForge
