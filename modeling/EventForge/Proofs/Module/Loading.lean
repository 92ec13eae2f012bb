import EventForge.Module.Import
import EventForge.Proofs.Module.Admission
import EventForge.Proofs.Module.LineFeed
import EventForge.Proofs.Text.Utf8
import EventForge.Script.Encoding

/-!
# Loading the module of a schema

The module of an accepted schema loads as what it declares if its names are plain, no attribute
hides the mark of class methods, and what it takes over as it is can be encoded and read back.
-/

namespace EventForge

/-!
## Encoded scripts

A text that is written as UTF-8 is the text of the script, if all its lines end with a line feed and
its first line names no encoding.
-/

namespace Script

theorem markedFrom_append (pending more : Bytes) :
    markedFrom pending.length (pending ++ more) = markedFrom 0 more := by
  induction pending with
  | nil => rfl
  | cons byte pending ih => exact ih

theorem markedFrom_encodeAll (text : Text) (plain : ∀ point ∈ text, point.isSurrogate = false) :
    markedFrom 0 (Utf8.encodeAll text) = text := by
  induction text with
  | nil => rfl
  | cons point text ih =>
      have read := ih fun other member => plain other (by simp [member])
      obtain ⟨first, others, encoded, decoded⟩ :=
        Utf8.decodeFirst_encodePoint point (plain point (by simp)) (Utf8.encodeAll text)
      have whole : Utf8.encodeAll (point :: text) =
          first :: (others ++ Utf8.encodeAll text) := by
        rw [Utf8.encodeAll, List.flatMap_cons, encoded]
        rfl
      rw [whole, markedFrom, decoded]
      simp only [Nat.add_sub_cancel, markedFrom_append, read]

theorem universalLines_eq_self (text : Text) (plain : ∀ point ∈ text, point.val ≠ 0x0D) :
    ModuleFile.universalLines text = text := by
  induction text with
  | nil => rfl
  | cons point text ih =>
      rw [ModuleFile.universalLines, if_neg (plain point (by simp)),
        ih fun other member => plain other (by simp [member])]

/-- A script with a zero among its bytes has no text. -/
theorem textOf_of_zero_mem (content : Bytes) (zero : 0 ∈ content) :
    textOf content = .error .nullCharacter := by
  simp [textOf, zero]

/-- The text of a script is read as it was written. -/
theorem textOf_encodeAll (text : Text) (plain : ∀ point ∈ text, point.isSurrogate = false)
    (feeds : ∀ point ∈ text, point.val ≠ 0x0D) (noZero : 0 ∉ text)
    (unmarked : text.head? ≠ some byteOrderMark) (unnamed : ScriptEncoding.nameOf? text = none) :
    textOf (Utf8.encodeAll text) = .ok text := by
  have noZeroByte : (Utf8.encodeAll text).contains 0 = false := by
    simpa [Utf8.zero_mem_encodeAll] using noZero
  simp only [textOf, markedFrom_encodeAll text plain, universalLines_eq_self text feeds, unmarked,
    Bool.false_eq_true, if_false, noZeroByte, unnamed, Option.map_none]

end Script

/-!
## Modules of schemas
-/

/-- What an accepted schema needs so that its module loads. -/
structure RawSchema.IsLoadable (schema : RawSchema) (sourcePath : Option Text) : Prop where
  plain : schema.HasPlainNames
  /-- No attribute hides the mark of class methods. -/
  marked : ∀ event ∈ schema.events, ∀ field ∈ event.typeMapping,
    Identifier.attributeName field.1 ≠ ModuleText.classMark
  /-- No label holds U+0000 or a surrogate. -/
  labels : ∀ event ∈ schema.events, ∀ point ∈ event.typeLabel,
    point ≠ 0 ∧ point.isSurrogate = false
  /-- The path of the source holds no surrogate. -/
  source : ∀ path, (sourcePath <|> schema.path) = some path →
    ∀ point ∈ path, point.isSurrogate = false

/-- Whether the text of a module can be written, and loads as an event module in a session. -/
def EventModule.Loads (module : EventModule) (session : ScriptState) (reference path : Text) :
    Prop :=
  ∃ content found after, Utf8.encode (ModuleText.write module) = .ok content ∧
    ModuleImport.ofContent session reference path content = (.ok found, after)

namespace Compilation

open ModuleText Text

theorem literal_of_low {allowed : CodePoint → Prop}
    (high : ∀ point : CodePoint, 0x20 ≤ point.val → allowed point) (text : Text) :
    Allows allowed (Literal.ofText text) :=
  fun point member => high point <|
    (Literal.mem_ofText text point member).elim (fun ascii => ascii.1) fun own => own.2

theorem encodable_ofText (text : Text) (encodable : ∀ point ∈ text, point.isSurrogate = false) :
    Allows (fun point => point.isSurrogate = false) (Literal.ofText text) := by
  intro point member
  rcases Literal.mem_ofText text point member with ascii | ⟨own, _⟩
  · exact isSurrogate_of_isPrintable point (by simpa [isPrintable] using ascii)
  · exact encodable point own

/-- The first line of a module is no comment, so that the module names no encoding. -/
theorem nameOf?_write (module : EventModule) : ScriptEncoding.nameOf? (write module) = none := by
  obtain ⟨rest, shape⟩ : ∃ rest, write module =
      ("\"\"\"" : Text) ++ CodePoint.ofChar '\n' ::
        (("Event types generated from a schema source." : Text) ++
          CodePoint.ofChar '\n' :: rest) := by
    obtain ⟨others, first⟩ : ∃ others, ModuleText.lines module =
        ("\"\"\"" : Text) :: ("Event types generated from a schema source." : Text) :: others :=
      ⟨_, rfl⟩
    rw [write_eq, first, textOf, List.flatMap_cons, List.flatMap_cons]
    exact ⟨others.flatMap fun line => line ++ [CodePoint.ofChar '\n'], by simp⟩
  have cut : ∃ others, (write module).lines =
      ("\"\"\"" : Text) :: ("Event types generated from a schema source." : Text) :: others := by
    rw [shape, Text.lines, Text.splitAt_append _ _ _ (by rw [ofString_ofList]; decide),
      Text.splitAt_append _ _ _ (by rw [ofString_ofList]; decide)]
    exact ⟨_, rfl⟩
  obtain ⟨others, cut⟩ := cut
  have noName : ScriptEncoding.nameOfLine? ("\"\"\"" : Text) = none := by decide
  have content : ((("\"\"\"" : Text).dropWhile ScriptEncoding.isBlank).isEmpty ||
      Text.startsWith (("\"\"\"" : Text).dropWhile ScriptEncoding.isBlank) "#") = false := by
    decide
  rw [ScriptEncoding.nameOf?, cut]
  simp only [noName, content, Bool.false_eq_true, if_false]
  rfl

section Content

variable {session : ScriptState} {reference path text : Text} {content : Bytes}
  (isText : Script.textOf content = .ok text)

include isText

theorem ofContent_of_read {module : EventModule} (isRead : read text = .ok module)
    (inhabited : module.classes.isEmpty = false) :
    ModuleImport.ofContent session reference path content = (.ok (.declared module), session) := by
  simp [ModuleImport.ofContent, isText, isRead, inhabited]

/-- A module without classes is read, but has no events to offer. -/
theorem ofContent_of_noEvents {module : EventModule} (isRead : read text = .ok module)
    (bare : module.classes.isEmpty = true) :
    ModuleImport.ofContent session reference path content = (.error (.noEvents reference), session) := by
  simp [ModuleImport.ofContent, isText, isRead, bare]

theorem ofContent_of_hiddenMark (isRead : read text = .error .hiddenMark) :
    ModuleImport.ofContent session reference path content = (.error .hiddenMark, session) := by
  simp [ModuleImport.ofContent, isText, isRead]

/-- A text that is neither read as a module nor a script loads as nothing. -/
theorem ofContent_of_noScript (unread : ∀ module, read text ≠ .ok module)
    (noScript : ∃ error, Script.ofText text = .error error) (found : LoadedModule) :
    (ModuleImport.ofContent session reference path content).1 ≠ .ok found := by
  obtain ⟨error, noScript⟩ := noScript
  simp only [ModuleImport.ofContent, isText]
  split
  · rename_i module isRead
    exact absurd isRead (unread module)
  · simp
  · simp [ModuleImport.runScript, noScript]

end Content

section Written

variable (schema : RawSchema) (sourcePath : Option Text) (accepted : Validation.Accepts schema)

include accepted

/-- No control character stands in the lines of the module, if none stands in its labels; a line feed
must not stand behind a name. -/
theorem not_mem_lines (point : CodePoint) (low : point.val < 0x20)
    (feeds : point ≠ CodePoint.lineFeed ∨ schema.HasPlainNames)
    (labels : ∀ event ∈ schema.events, point ∉ EventClass.safeLabel event.typeLabel) :
    ∀ line ∈ lines (moduleOf schema sourcePath), point ∉ line := by
  have high : ∀ other : CodePoint, 0x20 ≤ other.val → other ≠ point := by
    rintro other above rfl
    omega
  have admits : Admits (fun other => other ≠ point) (moduleOf schema sourcePath) := by
    apply admits_moduleOf schema sourcePath accepted
    · intro other printable
      simp only [isPrintable, Bool.and_eq_true, decide_eq_true_eq] at printable
      exact high other printable.1
    · exact feeds.imp_left Ne.symm
    · exact fun text _ => literal_of_low high text
    · rintro event member other inside rfl
      exact labels event member inside
    · exact fun path _ => literal_of_low high path
  intro line member inside
  exact allows_lines _ admits line member point inside rfl

theorem whole_lines (plain : schema.HasPlainNames) :
    ∀ line ∈ lines (moduleOf schema sourcePath), CodePoint.ofChar '\n' ∉ line :=
  not_mem_lines schema sourcePath accepted '\n' (by decide) (.inr plain) fun event _ =>
    EventClass.not_mem_safeLabel event.typeLabel '\n' (by decide) (by decide)

/-- The module is read back from its text. -/
theorem read_moduleOf (plain : schema.HasPlainNames) (inhabited : schema.events ≠ [])
    (labels : ∀ event ∈ schema.events, ∀ point ∈ event.typeLabel, point.isSurrogate = false) :
    read (write (moduleOf schema sourcePath)) =
      if hidesMark (moduleOf schema sourcePath) then .error .hiddenMark
      else .ok (moduleOf schema sourcePath) :=
  read_write _ (isPlainModule_moduleOf schema sourcePath accepted plain)
    (fun _ => generators_ne_nil schema sourcePath inhabited)
    (isNamed_moduleOf schema sourcePath accepted plain labels)
    (whole_lines schema sourcePath accepted plain)

/-- The text of the module holds no surrogate, if its labels and the path of its source hold none. -/
theorem isSurrogate_write
    (labels : ∀ event ∈ schema.events, ∀ point ∈ event.typeLabel, point.isSurrogate = false)
    (source : ∀ path, (sourcePath <|> schema.path) = some path →
      ∀ point ∈ path, point.isSurrogate = false) :
    ∀ point ∈ write (moduleOf schema sourcePath), point.isSurrogate = false := by
  have admits : Admits (fun point => point.isSurrogate = false) (moduleOf schema sourcePath) := by
    apply admits_moduleOf schema sourcePath accepted isSurrogate_of_isPrintable (.inl (by decide))
      encodable_ofText
    · intro event member point inside
      cases surrogate : point.isSurrogate with
      | false => rfl
      | true =>
          have own := (EventClass.mem_safeLabel_of_isSurrogate _ point surrogate).mp inside
          rw [labels event member point own] at surrogate
          cases surrogate
    · exact fun path found => encodable_ofText path (source path found)
  intro point member
  rcases mem_write _ point member with rfl | ⟨line, lineMember, inside⟩
  · decide
  · exact allows_lines _ admits line lineMember point inside

/-- No control character but the line feed stands in the text of the module, if none stands in its
labels. -/
theorem not_mem_write (point : CodePoint) (low : point.val < 0x20)
    (noFeed : point ≠ CodePoint.lineFeed)
    (labels : ∀ event ∈ schema.events, point ∉ EventClass.safeLabel event.typeLabel) :
    point ∉ write (moduleOf schema sourcePath) := by
  intro member
  rcases mem_write _ point member with same | ⟨line, lineMember, inside⟩
  · exact noFeed same
  · exact not_mem_lines schema sourcePath accepted point low (.inl noFeed) labels line lineMember
      inside

/-- No carriage return stands in the text of the module: it is a blank, and blanks between the words
of a label become spaces. -/
theorem return_not_mem_write :
    ∀ point ∈ write (moduleOf schema sourcePath), point.val ≠ 0x0D := by
  intro point member same
  obtain rfl : point = 0x0D := Fin.ext same
  exact not_mem_write schema sourcePath accepted 0x0D (by decide) (by decide)
    (fun event _ => EventClass.not_mem_safeLabel event.typeLabel 0x0D (by decide) (by decide)) member

/-- The text of the module can be encoded, and the script of the bytes is the text. -/
theorem textOf_moduleOf
    (labels : ∀ event ∈ schema.events, ∀ point ∈ event.typeLabel,
      point ≠ 0 ∧ point.isSurrogate = false)
    (source : ∀ path, (sourcePath <|> schema.path) = some path →
      ∀ point ∈ path, point.isSurrogate = false) :
    Utf8.encode (write (moduleOf schema sourcePath)) =
        .ok (Utf8.encodeAll (write (moduleOf schema sourcePath))) ∧
      Script.textOf (Utf8.encodeAll (write (moduleOf schema sourcePath))) =
        .ok (write (moduleOf schema sourcePath)) := by
  have encodable := isSurrogate_write schema sourcePath accepted
    (fun event member point own => (labels event member point own).2) source
  refine ⟨Utf8.encode_eq_ok _ encodable, Script.textOf_encodeAll _ encodable
    (return_not_mem_write schema sourcePath accepted) ?_ ?_ ?_⟩
  · apply not_mem_write schema sourcePath accepted 0 (by decide) (by decide)
    intro event member inside
    exact (labels event member 0 ((EventClass.zero_mem_safeLabel _).mp inside)).1 rfl
  · intro same
    cases same
  · exact nameOf?_write _

/-- The module of a schema that is fit for it is read back as it is. -/
theorem read_of_isLoadable (inhabited : schema.events ≠ []) (loadable : schema.IsLoadable sourcePath) :
    read (write (moduleOf schema sourcePath)) = .ok (moduleOf schema sourcePath) := by
  have visible : hidesMark (moduleOf schema sourcePath) = false := by
    rw [hidesMark, List.any_eq_false]
    intro eventClass member
    obtain ⟨event, eventMember, rfl⟩ := (mem_classes_moduleOf schema sourcePath eventClass).mp member
    rw [Bool.not_eq_true, List.any_eq_false]
    intro found foundMember
    have named : found.name ∈ attributeNames event := by
      rw [← attributes_classOf]
      exact List.mem_map_of_mem foundMember
    rw [decide_eq_true_eq]
    intro same
    rcases List.mem_append.mp named with declared | creation
    · obtain ⟨field, sorted, made⟩ := List.mem_map.mp declared
      exact loadable.marked event eventMember field
        ((Validation.sortFields_perm _).mem_iff.mp sorted) (made.trans same)
    · rw [List.mem_singleton.mp creation] at same
      exact absurd same (by decide)
  rw [read_moduleOf schema sourcePath accepted loadable.plain inhabited
    fun event member point own => (loadable.labels event member point own).2, visible]
  rfl

/-- A module whose schema is fit for it loads as what it declares, and leaves the session as it was.
-/
theorem ofContent_moduleOf (inhabited : schema.events ≠ []) (loadable : schema.IsLoadable sourcePath)
    (session : ScriptState) (reference path : Text) :
    Utf8.encode (write (moduleOf schema sourcePath)) =
        .ok (Utf8.encodeAll (write (moduleOf schema sourcePath))) ∧
      ModuleImport.ofContent session reference path
          (Utf8.encodeAll (write (moduleOf schema sourcePath))) =
        (.ok (.declared (moduleOf schema sourcePath)), session) := by
  obtain ⟨encoded, text⟩ := textOf_moduleOf schema sourcePath accepted loadable.labels
    loadable.source
  have classes : (moduleOf schema sourcePath).classes.isEmpty = false := by
    rw [List.isEmpty_eq_false_iff]
    exact fun none => inhabited ((classes_eq_nil_iff schema sourcePath).mp none)
  exact ⟨encoded, ofContent_of_read text
    (read_of_isLoadable schema sourcePath accepted inhabited loadable) classes⟩

omit accepted in
/-- A module that can be written takes over no surrogate. -/
theorem encodable_of_encode (bytes : Bytes)
    (encoded : Utf8.encode (write (moduleOf schema sourcePath)) = .ok bytes) :
    (∀ event ∈ schema.events, ∀ point ∈ event.typeLabel, point.isSurrogate = false) ∧
      ∀ path, (sourcePath <|> schema.path) = some path →
        ∀ point ∈ path, point.isSurrogate = false := by
  have every := Utf8.isSurrogate_eq_false_of_encode _ bytes encoded
  constructor
  · intro event member point own
    cases surrogate : point.isSurrogate with
    | false => rfl
    | true =>
        have inside := (EventClass.mem_safeLabel_of_isSurrogate _ point surrogate).mpr own
        have listed := (mem_classes_moduleOf schema sourcePath _).mpr ⟨event, member, rfl⟩
        rw [every point (mem_write_of_label _ _ listed point inside)] at surrogate
        cases surrogate
  · intro path given point own
    cases surrogate : point.isSurrogate with
    | false => rfl
    | true =>
        have high : 0x80 ≤ point.val := by
          simp only [CodePoint.isSurrogate, Bool.and_eq_true, decide_eq_true_eq] at surrogate
          omega
        have inside := Literal.mem_ofText_of_high path point own high
        rw [every point (mem_write_of_source _ path given point inside)] at surrogate
        cases surrogate

/-- The text of a module with a line feed in a name is neither read as a module nor a script. -/
theorem foreign_of_feed (broken : ¬schema.HasPlainNames) :
    (∀ found, read (write (moduleOf schema sourcePath)) ≠ .ok found) ∧
      ∃ error, Script.ofText (write (moduleOf schema sourcePath)) = .error error := by
  obtain ⟨event, member, notPlain⟩ : ∃ event ∈ schema.events, ¬(Identifier.isPlain event.name = true ∧
      ∀ field ∈ event.typeMapping, Identifier.isPlain field.1 = true) := by
    refine Classical.byContradiction fun none => broken ?_
    have each : ∀ event ∈ schema.events, Identifier.isPlain event.name = true ∧
        ∀ field ∈ event.typeMapping, Identifier.isPlain field.1 = true :=
      fun event member => Classical.byContradiction fun notPlain => none ⟨event, member, notPlain⟩
    exact ⟨fun event member => (each event member).1, fun event member => (each event member).2⟩
  have cases_of : ∀ event ∈ schema.events, _ := fun event member =>
    classOf_cases event (accepted.events event member)
  have listed := (mem_classes_moduleOf schema sourcePath _).mpr ⟨event, member, rfl⟩
  obtain ⟨breaks, cut⟩ := (cases_of event member).resolve_left fun passed => notPlain passed.1
  refine ⟨fun found => read_of_isCut _ found _ listed cut,
    ofText_of_breaks _ ?_ ?_ ⟨_, listed, breaks⟩⟩
  · intro generator inside
    exact (generatorNames_named _ (generators_moduleOf schema sourcePath generator inside)).1
  · intro eventClass inside
    obtain ⟨other, otherMember, rfl⟩ := (mem_classes_moduleOf schema sourcePath eventClass).mp inside
    exact (cases_of other otherMember).imp And.right And.left

omit accepted in
/-- What a schema takes over as it is can be encoded and read back if its module loads. -/
theorem taken_of_loads (session : ScriptState) (reference path : Text)
    (loads : (moduleOf schema sourcePath).Loads session reference path) :
    (∀ event ∈ schema.events, ∀ point ∈ event.typeLabel,
        point ≠ 0 ∧ point.isSurrogate = false) ∧
      (∀ sourceName, (sourcePath <|> schema.path) = some sourceName →
        ∀ point ∈ sourceName, point.isSurrogate = false) ∧
      ∃ found after, ModuleImport.ofContent session reference path
        (Utf8.encodeAll (write (moduleOf schema sourcePath))) = (.ok found, after) := by
  obtain ⟨content, found, after, encoded, loaded⟩ := loads
  obtain ⟨labels, source⟩ := encodable_of_encode schema sourcePath content encoded
  have bytes : content = Utf8.encodeAll (write (moduleOf schema sourcePath)) := by
    rw [Utf8.encode_eq_ok _ (Utf8.isSurrogate_eq_false_of_encode _ _ encoded)] at encoded
    exact (Except.ok.inj encoded).symm
  refine ⟨fun event member point own => ⟨?_, labels event member point own⟩, source,
    found, after, bytes ▸ loaded⟩
  rintro rfl
  have inside := (EventClass.zero_mem_safeLabel event.typeLabel).mpr own
  have listed := (mem_classes_moduleOf schema sourcePath _).mpr ⟨event, member, rfl⟩
  have zero := (Utf8.zero_mem_encodeAll _).mpr (mem_write_of_label _ _ listed 0 inside)
  rw [← bytes] at zero
  rw [ModuleImport.ofContent, Script.textOf_of_zero_mem content zero] at loaded
  cases loaded

/-- The module of a schema without events does not load. -/
theorem inhabited_of_loads (session : ScriptState) (reference path : Text)
    (loads : (moduleOf schema sourcePath).Loads session reference path) : schema.events ≠ [] := by
  intro none
  have bare := (classes_eq_nil_iff schema sourcePath).mpr none
  have noEvent : ∀ event, event ∉ schema.events := by simp [none]
  obtain ⟨labels, source, found, after, loaded⟩ :=
    taken_of_loads schema sourcePath session reference path loads
  obtain ⟨_, text⟩ := textOf_moduleOf schema sourcePath accepted labels source
  have plain : schema.HasPlainNames :=
    ⟨fun event member => absurd member (noEvent event),
      fun event member => absurd member (noEvent event)⟩
  have read := read_write _ (isPlainModule_moduleOf schema sourcePath accepted plain)
    (fun some => absurd bare some)
    (isNamed_moduleOf schema sourcePath accepted plain
      fun event member => absurd member (noEvent event))
    (whole_lines schema sourcePath accepted plain)
  have visible : hidesMark (moduleOf schema sourcePath) = false := by
    rw [hidesMark, bare]
    rfl
  rw [visible, if_neg Bool.false_ne_true] at read
  rw [ofContent_of_noEvents text read (List.isEmpty_iff.mpr bare)] at loaded
  cases loaded

/-- A schema whose module loads is fit for it. -/
theorem isLoadable_of_loads (inhabited : schema.events ≠ []) (session : ScriptState)
    (reference path : Text) (loads : (moduleOf schema sourcePath).Loads session reference path) :
    schema.IsLoadable sourcePath := by
  obtain ⟨labels, source, found, after, loaded⟩ :=
    taken_of_loads schema sourcePath session reference path loads
  obtain ⟨_, text⟩ := textOf_moduleOf schema sourcePath accepted labels source
  have plain : schema.HasPlainNames := by
    refine Classical.byContradiction fun broken => ?_
    obtain ⟨unread, noScript⟩ := foreign_of_feed schema sourcePath accepted broken
    exact ofContent_of_noScript text unread noScript found (congrArg Prod.fst loaded)
  refine ⟨plain, ?_, labels, source⟩
  intro event member field declared hides
  have hidden : hidesMark (moduleOf schema sourcePath) = true := by
    have listed := (mem_classes_moduleOf schema sourcePath _).mpr ⟨event, member, rfl⟩
    have named : Identifier.attributeName field.1 ∈ attributeNames event :=
      List.mem_append_left _ (List.mem_map.mpr
        ⟨field, (Validation.sortFields_perm _).mem_iff.mpr declared, rfl⟩)
    rw [← attributes_classOf] at named
    obtain ⟨found, foundMember, made⟩ := List.mem_map.mp named
    rw [hidesMark, List.any_eq_true]
    refine ⟨classOf event, listed, ?_⟩
    rw [List.any_eq_true]
    exact ⟨found, foundMember, by simp [made, hides]⟩
  have read := read_moduleOf schema sourcePath accepted plain inhabited
    fun event member point own => (labels event member point own).2
  rw [hidden, if_pos rfl] at read
  rw [ofContent_of_hiddenMark text read] at loaded
  cases loaded

end Written

/-- The keys of the constructors are the sorted names of the events. -/
theorem constructors_moduleOf (schema : RawSchema) (sourcePath : Option Text) :
    (moduleOf schema sourcePath).constructors.map Prod.fst = schema.eventNames := by
  have sorted : (Validation.sortEvents schema.events).map (fun event => event.name) =
      schema.eventNames := List.map_mergeSort fun _ _ _ _ => rfl
  rw [← sorted, EventModule.constructors, classes_moduleOf, List.map_map, List.map_map]
  rfl

/-- Exactly the schemas that are fit for it have a module that loads, and it loads as what it
declares: a class for each event, whose table is the key of its constructor. -/
theorem loads_iff_isLoadable (schema : RawSchema) (sourcePath : Option Text)
    (compiled : CompiledSchema) (made : compileRaw schema sourcePath = .ok compiled)
    (inhabited : schema.events ≠ []) (session : ScriptState) (reference path : Text) :
    let module := EventModule.ofCompiled compiled
    (module.Loads session reference path ↔ schema.IsLoadable sourcePath) ∧
      (schema.IsLoadable sourcePath → ∃ content, Utf8.encode (write module) = .ok content ∧
        ModuleImport.ofContent session reference path content = (.ok (.declared module), session)) ∧
      module.constructors.map Prod.fst = schema.eventNames ∧
      ∀ constructor ∈ module.constructors, constructor.2.table = constructor.1 := by
  obtain ⟨accepted, rfl⟩ := of_compileRaw schema sourcePath compiled made
  have declared : schema.IsLoadable sourcePath → ∃ content,
      Utf8.encode (write (moduleOf schema sourcePath)) = .ok content ∧
        ModuleImport.ofContent session reference path content =
          (.ok (.declared (moduleOf schema sourcePath)), session) := fun loadable =>
    ⟨_, ofContent_moduleOf schema sourcePath accepted inhabited loadable session reference path⟩
  refine ⟨⟨isLoadable_of_loads schema sourcePath accepted inhabited session reference path, ?_⟩,
    declared, constructors_moduleOf schema sourcePath, ?_⟩
  · intro loadable
    obtain ⟨content, encoded, loads⟩ := declared loadable
    exact ⟨content, _, _, encoded, loads⟩
  · intro constructor member
    obtain ⟨eventClass, _, rfl⟩ := List.mem_map.mp member
    rfl

theorem isUsable_classmethod : Identifier.isUsable "classmethod" = true :=
  Identifier.isUsable_of_lower _ (by decide) (by decide)
    (by simp [Identifier.databaseWords, Text.ofString_inj]) (by decide)

/-- An event that has a time alone. -/
def timedEvent (name : Text) : RawEvent :=
  { name, typeLabel := [], typeMapping := [("time", .text "timestamp")] }

theorem acceptsEvent_timedEvent (name : Text) (usable : Identifier.isUsable name = true) :
    Validation.AcceptsEvent (timedEvent name) :=
  Validation.acceptsEvent_alone _ (.text "timestamp") rfl usable rfl

/-- A schema whose events have a time alone. -/
def timedSchema (names : List Text) : RawSchema := { events := names.map timedEvent, path := none }

theorem mem_timedSchema (names : List Text) (event : RawEvent) :
    event ∈ (timedSchema names).events ↔ ∃ name ∈ names, timedEvent name = event := by
  simp [timedSchema]

/-- A schema of events that have a time alone is accepted for their names. -/
theorem accepts_timedSchema (names : List Text)
    (usable : ∀ name ∈ names, Identifier.isUsable name = true)
    (classes : (names.map Identifier.camelCase).Nodup) (tables : (names.map Text.fold).Nodup) :
    Validation.Accepts (timedSchema names) where
  events event member := by
    obtain ⟨name, nameMember, rfl⟩ := (mem_timedSchema names event).mp member
    exact acceptsEvent_timedEvent name (usable name nameMember)
  classesDistinct := by
    rw [timedSchema, List.map_map]
    exact classes
  tablesDistinct := by
    rw [timedSchema, List.map_map]
    exact tables

/-- The schema of one event with a label. -/
def labelledSchema (label : Text) : RawSchema :=
  { events := [{ timedEvent "login" with typeLabel := label }], path := none }

theorem valid_labelledSchema (label : Text) : Validation.errors (labelledSchema label) = .ok [] := by
  refine (Validation.errors_eq_nil_iff _).mpr ⟨fun own member => ?_, ?_, ?_⟩
  · rw [List.mem_singleton.mp member]
    exact Validation.acceptsEvent_alone _ (.text "timestamp") rfl Identifier.isUsable_login rfl
  · simp [labelledSchema]
  · simp [labelledSchema]

/-- Schemas of events that have a time alone, and no labels, load. -/
theorem isLoadable_alone (schema : RawSchema) (sourceless : schema.path = none)
    (alone : ∀ event ∈ schema.events, event.typeLabel = [] ∧
      ∃ type, event.typeMapping = [(timeName, type)])
    (plain : ∀ event ∈ schema.events, Identifier.isPlain event.name = true) :
    schema.IsLoadable none where
  plain := by
    refine ⟨plain, fun event member field fieldMember => ?_⟩
    obtain ⟨_, type, fields⟩ := alone event member
    rw [fields] at fieldMember
    rw [List.mem_singleton.mp fieldMember]
    exact (by decide : Identifier.isPlain timeName = true)
  marked event member field fieldMember := by
    obtain ⟨_, type, fields⟩ := alone event member
    rw [fields] at fieldMember
    rw [List.mem_singleton.mp fieldMember, Validation.attributeName_timeName]
    decide
  labels event member point inside := by
    rw [(alone event member).1] at inside
    cases inside
  source path given := by
    rw [sourceless] at given
    cases given

theorem isLoadable_timedSchema (names : List Text)
    (plain : ∀ name ∈ names, Identifier.isPlain name = true) :
    (timedSchema names).IsLoadable none := by
  apply isLoadable_alone _ rfl <;> intro event member <;>
    obtain ⟨name, nameMember, rfl⟩ := (mem_timedSchema names event).mp member
  · exact ⟨rfl, _, rfl⟩
  · exact plain name nameMember

theorem loads_timedSchema (names : List Text)
    (plain : ∀ name ∈ names, Identifier.isPlain name = true) (inhabited : names ≠ [])
    (accepted : Validation.Accepts (timedSchema names)) (session : ScriptState)
    (reference path : Text) :
    (moduleOf (timedSchema names) none).Loads session reference path := by
  have events : (timedSchema names).events ≠ [] := by simpa [timedSchema] using inhabited
  obtain ⟨encoded, loads⟩ := ofContent_moduleOf _ none accepted events
    (isLoadable_timedSchema names plain) session reference path
  exact ⟨_, _, _, encoded, loads⟩

/-- A session without files. -/
def bareSession : ScriptState := .opening { files := { home := "/", entries := [] } } ⟨0⟩ []

def loginSchema : RawSchema := timedSchema ["login"]

theorem accepts_loginSchema : Validation.Accepts loginSchema :=
  accepts_timedSchema ["login"] (by simpa using Identifier.isUsable_login) (by simp) (by simp)

theorem loginSchema_loads :
    ∃ compiled content, compileRaw loginSchema none = .ok compiled ∧ loginSchema.events ≠ [] ∧
      (EventModule.ofCompiled compiled).Loads bareSession "events.py" "events.py" ∧
      Utf8.encode (write (EventModule.ofCompiled compiled)) = .ok content ∧
      ModuleImport.ofContent bareSession "events.py" "events.py" content =
        (.ok (.declared (EventModule.ofCompiled compiled)), bareSession) ∧
      (EventModule.ofCompiled compiled).constructors.map Prod.fst = loginSchema.eventNames ∧
      ∀ constructor ∈ (EventModule.ofCompiled compiled).constructors,
        constructor.2.table = constructor.1 := by
  have made := compileRaw_eq loginSchema none
    ((Validation.errors_eq_nil_iff _).mpr accepts_loginSchema)
  have inhabited : loginSchema.events ≠ [] := List.cons_ne_nil _ _
  have loadable : loginSchema.IsLoadable none :=
    isLoadable_timedSchema ["login"] (by decide)
  obtain ⟨loads, declared, names, tables⟩ := loads_iff_isLoadable loginSchema none _ made inhabited
    bareSession "events.py" "events.py"
  obtain ⟨content, encoded, found⟩ := declared loadable
  exact ⟨_, content, made, inhabited, loads.mpr loadable, encoded, found, names, tables⟩

/-- A schema with a field whose attribute hides the mark of class methods. -/
def hidingSchema : RawSchema :=
  { events := [{ name := "login", typeLabel := [],
                 typeMapping := [("classmethod", .text "int"), ("time", .text "timestamp")] }]
    path := none }

theorem attributeName_classMark : Identifier.attributeName classMark = classMark := by decide

theorem accepts_hidingSchema : Validation.Accepts hidingSchema where
  events event member := by
    obtain rfl := List.mem_singleton.mp member
    have mark : Identifier.attributeName "classmethod" = "classmethod" := attributeName_classMark
    have time : Identifier.attributeName "time" = "time" := Validation.attributeName_timeName
    refine ⟨Identifier.isUsable_login, ?_, by decide, by decide, ?_, ?_, by decide⟩
    · intro field fieldMember
      obtain rfl | rfl : field = _ ∨ field = _ := by simpa using fieldMember
      · exact isUsable_classmethod
      · exact Identifier.isUsable_time
    · simp only [List.forall_mem_cons, mark, time]
      decide
    · simp only [List.map_cons, mark, time]
      decide
  classesDistinct := by simp [hidingSchema]
  tablesDistinct := by simp [hidingSchema]

/-- The module of an accepted schema does not load if a field is called like the mark of class
methods. -/
theorem hidingSchema_unloadable :
    ∃ compiled, compileRaw hidingSchema none = .ok compiled ∧ hidingSchema.events ≠ [] ∧
      ∀ session reference path,
        ¬(EventModule.ofCompiled compiled).Loads session reference path := by
  have inhabited : hidingSchema.events ≠ [] := List.cons_ne_nil _ _
  refine ⟨_, compileRaw_eq hidingSchema none
    ((Validation.errors_eq_nil_iff _).mpr accepts_hidingSchema), inhabited, ?_⟩
  intro session reference path loads
  have loadable := isLoadable_of_loads hidingSchema none accepts_hidingSchema inhabited session
    reference path loads
  exact loadable.marked _ (List.mem_singleton.mpr rfl) ("classmethod", .text "int") (by simp)
    attributeName_classMark

end Compilation

end EventForge
