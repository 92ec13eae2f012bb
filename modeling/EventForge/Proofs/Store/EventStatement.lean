import EventForge.Proofs.Document.Basic
import EventForge.Proofs.Sql.Insertion
import EventForge.Proofs.Store.EmptyDatabase
import EventForge.Store.Event

/-!
# The statements of an event class

The text that stores an event is spelled from the tokens that insert a row of parameters, and the
text that retrieves events from those of a query for a range.
-/

namespace EventForge

open Outcome

namespace SqlToken

theorem spell_ofName (before name : Text) : spell (ofName before name) = before ++ name := by
  simp [ofName, ofWord]

theorem spell_ofParameter (before : Text) (number : Nat) :
    spell (ofParameter before number) = before ++ Entity.placeholder number := by
  simp [ofParameter, ofNumber, Entity.placeholder]

/-- A list behind a word. -/
theorem spell_spaced {Item : Type} (tokens : Text → Item → List SqlToken) (text : Item → Text)
    (spelled : ∀ before item, spell (tokens before item) = before ++ text item)
    (items : List Item) (inhabited : items ≠ []) :
    spell (spaced tokens items) = blank ++ Text.join ", " (items.map text) := by
  have whole := spell_listed tokens text spelled items
  cases items with
  | nil => exact absurd rfl inhabited
  | cons item items =>
      simp only [listed, spell_append, spelled, List.nil_append] at whole
      rw [spaced, spell_append, spelled, List.append_assoc, whole]

theorem spells_ofName (name : Text) (plain : Identifier.isPlain name = true) (before : Text)
    (later : List SqlToken) (spaced : before = [] ∨ before = blank) (spelled : Spells later)
    (ends : EndsVariable (spell later)) : Spells (ofName before name ++ later) :=
  .word spaced plain (endsWord_of_endsVariable _ ends) spelled

/-- A token with a blank in front ends a variable and a word. -/
theorem endsVariable_blank (token : SqlToken) (tokens : List SqlToken) (spaced : token.before = blank) :
    EndsVariable (spell (token :: tokens)) := by
  intro point first
  rw [spell_cons, spaced] at first
  exact .inl (Option.some.inj first).symm

theorem variableNames_ofNames (names : List Text) :
    variableNames (listed ofName names) = [] ∧ variableNames (spaced ofName names) = [] := by
  have behind : variableNames (listedBehind ofName names.tail) = [] := by
    induction names.tail with
    | nil => rfl
    | cons name names ih => simpa [listedBehind, ofName, comma] using ih
  cases names with
  | nil => exact ⟨rfl, rfl⟩
  | cons name names =>
      rw [List.tail_cons] at behind
      simp [listed, spaced, ofName, behind]

theorem variableNames_ofParameters (numbers : List Nat) :
    variableNames (listed ofParameter numbers) = numbers.map Text.ofNat := by
  have behind : ∀ numbers, variableNames (listedBehind ofParameter numbers) =
      numbers.map Text.ofNat := by
    intro numbers
    induction numbers with
    | nil => rfl
    | cons number numbers ih => simpa [listedBehind, ofParameter, comma] using ih
  cases numbers with
  | nil => rfl
  | cons number numbers => simp [listed, ofParameter, behind]

end SqlToken

open SqlToken

namespace SqlReader

/-- The text that inserts a row of parameters. -/
def insertText (table : Text) (names : List Text) : Text :=
  ("INSERT INTO " : Text) ++ table ++ " (" ++ Text.join ", " names ++ ") VALUES (" ++
    Text.join ", " ((parameterNumbers names.length).map Entity.placeholder) ++ ")"

/-- The text that asks for a range of rows. -/
def selectText (table : Text) (names : List Text) (column : Text) : Text :=
  ("SELECT " : Text) ++ Text.join ", " names ++ " FROM " ++ table ++ " WHERE " ++ column ++
    " BETWEEN $1 AND $2"

theorem insertText_eq (table : Text) (names : List Text) :
    insertText table names = spell (insertTokens table names) := by
  have columns := spell_listed ofName id spell_ofName names
  have parameters := spell_listed ofParameter Entity.placeholder spell_ofParameter
    (parameterNumbers names.length)
  rw [List.map_id] at columns
  simp only [insertTokens, spell_cons, spell_append, columns, parameters]
  simp [insertText, ofWord, opening, closing, ofSymbol]
  rfl

theorem selectText_eq (table : Text) (names : List Text) (column : Text) (inhabited : names ≠ []) :
    selectText table names column = spell (selectTokens table names column) := by
  have columns := spell_spaced ofName id spell_ofName names inhabited
  rw [List.map_id] at columns
  simp only [selectTokens, rangeTokens, spell_cons, spell_append, columns]
  simp [selectText, ofWord, ofNumber]
  rfl

theorem spells_insertTokens (table : Text) (names : List Text)
    (plain : Identifier.isPlain table = true) (namesPlain : ∀ name ∈ names, Identifier.isPlain name = true) :
    Spells (insertTokens table names) := by
  have parameters : Spells (listed ofParameter (parameterNumbers names.length) ++ [closing]) :=
    spells_listed ofParameter _ [closing]
      (fun number _ before later spaced spelled ends => .number spaced ends spelled)
      (spells_closing [] .nil) (endsVariable_closing [])
  have values : Spells (closing :: ofWord blank "VALUES" :: opening blank ::
      (listed ofParameter (parameterNumbers names.length) ++ [closing])) :=
    spells_closing _ (.word (.inr rfl) (by decide) (endsWord_opening blank (.inr rfl) _)
      (spells_opening blank (.inr rfl) _ parameters))
  have columns := spells_listed ofName names _
    (fun name member before later spaced spelled ends =>
      spells_ofName name (namesPlain name member) before later spaced spelled ends)
    values (endsVariable_closing _)
  have object : Spells (ofWord blank table :: opening blank :: _) :=
    .word (.inr rfl) plain (endsWord_opening blank (.inr rfl) _)
      (spells_opening blank (.inr rfl) _ columns)
  exact spells_word _ _ _ _ (.inl rfl) (by decide) <|
    spells_word _ _ _ _ (.inr rfl) (by decide) object

theorem spells_selectTokens (table : Text) (names : List Text) (column : Text)
    (plain : Identifier.isPlain table = true) (inhabited : names ≠ [])
    (namesPlain : ∀ name ∈ names, Identifier.isPlain name = true)
    (columnPlain : Identifier.isPlain column = true) : Spells (selectTokens table names column) := by
  have last : Spells [ofNumber blank 2] := .number (.inr rfl) (by simp [EndsVariable]) .nil
  have bounds : Spells [ofNumber blank 1, ofWord blank "AND", ofNumber blank 2] :=
    .number (.inr rfl) (endsVariable_blank _ _ rfl) <|
    .word (.inr rfl) (by decide) (endsWord_of_endsVariable _ (endsVariable_blank _ _ rfl)) last
  have between : Spells [ofWord blank "BETWEEN", ofNumber blank 1, ofWord blank "AND",
      ofNumber blank 2] :=
    .word (.inr rfl) (by decide) (endsWord_of_endsVariable _ (endsVariable_blank _ _ rfl)) bounds
  have range : Spells (rangeTokens table column) :=
    spells_word _ _ _ _ (.inr rfl) (by decide) <|
    spells_word _ _ _ _ (.inr rfl) plain <|
    spells_word _ _ _ _ (.inr rfl) (by decide) <|
    spells_word _ _ _ _ (.inr rfl) columnPlain between
  have ends : EndsVariable (spell (rangeTokens table column)) := endsVariable_blank _ _ rfl
  cases names with
  | nil => exact absurd rfl inhabited
  | cons name names =>
      obtain ⟨others, endsName⟩ := spells_listedBehind ofName names (rangeTokens table column)
        (fun other member before later spaced spelled ends =>
          spells_ofName other (namesPlain other (by simp [member])) before later spaced spelled ends)
        range ends
      have columns := spells_ofName name (namesPlain name (by simp)) blank _ (.inr rfl) others endsName
      rw [selectTokens, spaced, List.append_assoc]
      exact spells_word _ _ _ _ (.inl rfl) (by decide) columns

/-- The insertion of a row of parameters is read so. -/
theorem ofText_insert (table : Text) (names : List Text) (named : IsName table) (inhabited : names ≠ [])
    (columns : ∀ name ∈ names, IsName name) :
    FirstStatement.ofText (spell (insertTokens table names)) =
      .ok { statement := .rows (.insert (plainInsertion table names)), tokens := insertTokens table names
            parameters := (parameterNumbers names.length).map fun number => some (Text.ofNat number) } := by
  have bindings : variableNames (insertTokens table names) =
      (parameterNumbers names.length).map Text.ofNat := by
    simp [insertTokens, opening, closing, variableNames_ofParameters, (variableNames_ofNames names).1]
  have distinct : (variableNames (insertTokens table names)).Nodup := by
    rw [bindings, parameterNumbers, List.map_map, List.Nodup, List.pairwise_map]
    refine List.nodup_range.imp ?_
    intro first second apart same
    have numbers : first + 1 = second + 1 := Text.ofNat_injective _ _ same
    omega
  have read := FirstStatement.ofText_spell _ _ (spells_insertTokens table names named.plain
    fun name member => (columns name member).plain) (by simp [insertTokens])
    (statement_insert table names named inhabited fun name member => (columns name member).usable)
    distinct (by simp)
  rw [read, bindings, List.map_map]
  rfl

theorem ofText_select (table : Text) (names : List Text) (column : Text) (named : IsName table)
    (inhabited : names ≠ []) (columns : ∀ name ∈ names, IsName name) (columnNamed : IsName column) :
    FirstStatement.ofText (spell (selectTokens table names column)) =
      .ok { statement := .rows (.query (rangeQuery table names column))
            tokens := selectTokens table names column, parameters := [some "1", some "2"] } := by
  have bindings : variableNames (selectTokens table names column) = [("1" : Text), "2"] := by
    simp [selectTokens, rangeTokens, (variableNames_ofNames names).2]
    decide
  have read := FirstStatement.ofText_spell _ _ (spells_selectTokens table names column named.plain
    inhabited (fun name member => (columns name member).plain) columnNamed.plain)
    (by simp [selectTokens])
    (statement_select table names column named inhabited (fun name member => (columns name member).usable)
      columnNamed.usable)
    (by rw [bindings]; decide) (by simp)
  rw [read, bindings]
  rfl

end SqlReader

/-!
## Event classes and their statements

The statements of the classes of a schema list the columns of their tables, each with the attribute
that is stored in it.
-/

open SqlReader

/-- What the statements of a class and its attributes have to do with its columns. -/
structure EventClass.IsSound (eventClass : EventClass) : Prop where
  table : IsName eventClass.table
  inhabited : eventClass.columns ≠ []
  columns : ∀ name ∈ eventClass.columns, IsName name
  distinct : (eventClass.columns.map Text.toAsciiLower).Nodup
  timed : (eventClass.timeColumn, eventClass.timeColumn) ∈ eventClass.columns.zip eventClass.stored
  insertion : eventClass.insertStatement = insertText eventClass.table eventClass.columns
  selection : eventClass.selectStatement =
    selectText eventClass.table eventClass.columns eventClass.timeColumn
  attributes : eventClass.attributes.map Attribute.name = eventClass.stored
  retrieved : eventClass.retrieved.map Decoding.name = eventClass.stored
  names : eventClass.stored.Nodup
  count : eventClass.stored.length = eventClass.columns.length
  widths : ∀ decoding ∈ eventClass.retrieved, decoding.width = 32 ∨ decoding.width = 64

theorem EventClass.IsSound.timeColumn {eventClass : EventClass} (sound : eventClass.IsSound) :
    eventClass.timeColumn ∈ eventClass.columns := (List.of_mem_zip sound.timed).1

namespace Compilation

theorem columns_classOf (event : RawEvent) :
    (classOf event).columns = (entityOf event).columnDefinitions.map Prod.fst := by
  have stored := stored_entityOf event
  simp only [classOf, EventClass.ofEntity, stored, Entity.columnDefinitions, List.map_map]
  rfl

theorem width_of_mem_fieldsOf (event : RawEvent) :
    ∀ field ∈ fieldsOf event, field.width = 32 ∨ field.width = 64 := by
  intro field _
  rw [Field.width]
  cases field.type <;> simp [ScalarType.width]

/-- The time is an attribute and a column of one name. -/
theorem time_mem_zip (event : RawEvent) (accepted : Validation.AcceptsEvent event) :
    (timeName, timeName) ∈ (classOf event).columns.zip (classOf event).stored := by
  have stored := stored_entityOf event
  have pairs : (classOf event).columns.zip (classOf event).stored =
      (fieldsOf event).map fun field => (field.declaredName, field.name) := by
    simp only [classOf, EventClass.ofEntity, stored]
    exact List.zip_map'
  obtain ⟨field, member, named⟩ := accepted.hasTime
  have declared := map_fieldsFrom 0 (Validation.sortFields event.typeMapping)
    (fun field => (field.declaredName, field.name))
    (fun field => (field.1, Identifier.attributeName field.1)) fun _ _ _ => rfl
  rw [pairs, fieldsOf, List.map_append, declared]
  refine List.mem_append_left _ (List.mem_map.mpr ⟨field, ?_, ?_⟩)
  · exact (Validation.sortFields_perm event.typeMapping).mem_iff.mpr member
  · rw [named, Validation.attributeName_timeName]

/-- The statements list the columns of the class, and a placeholder for each. -/
theorem statements_classOf (event : RawEvent) :
    (classOf event).insertStatement =
        insertText (classOf event).table (classOf event).columns ∧
      (classOf event).selectStatement = selectText (classOf event).table
        (classOf event).columns (classOf event).timeColumn := by
  have stored : (fieldsOf event).filter (fun field => field.insertable) = fieldsOf event :=
    filter_insertable_fieldsOf event
  have columns : (classOf event).columns = (fieldsOf event).map fun field => field.declaredName := by
    simp only [classOf, EventClass.ofEntity, stored_entityOf]
  have fragments : Entity.fragments (fieldsOf event) =
      (Text.join ", " ((SqlToken.parameterNumbers (classOf event).columns.length).map
        Entity.placeholder), Text.join ", " (classOf event).columns) := by
    rw [Entity.fragments, stored, columns, SqlToken.parameterNumbers, List.map_map, List.length_map]
    rfl
  have insertTemplate : (entityOf event).insertTemplate = (Entity.fragments (fieldsOf event)).1 := rfl
  have projected : (entityOf event).projectedColumns = (Entity.fragments (fieldsOf event)).2 := rfl
  constructor
  · rw [insertText, show (classOf event).insertStatement =
      (entityOf event).insertStatement from rfl, Entity.insertStatement, insertTemplate, projected,
      fragments]
    rfl
  · rw [selectText, show (classOf event).selectStatement =
      (entityOf event).selectStatement from rfl, Entity.selectStatement, projected, fragments]
    rfl

/-- The class of an accepted event with plain names. -/
theorem isSound_classOf (event : RawEvent) (accepted : Validation.AcceptsEvent event)
    (plain : Identifier.isPlain event.name = true)
    (fieldsPlain : ∀ field ∈ event.typeMapping, Identifier.isPlain field.1 = true) :
    (classOf event).IsSound := by
  have proper := Migration.isProper_ofClass event accepted plain fieldsPlain
  have columns := columns_classOf event
  have stored := stored_entityOf event
  have time : (classOf event).timeColumn = timeName := timeColumn_entityOf event accepted
  constructor
  · exact proper.table
  · rw [columns]
    exact fun none => proper.inhabited (List.map_eq_nil_iff.mp none)
  · intro name member
    rw [columns] at member
    obtain ⟨column, columnMember, rfl⟩ := List.mem_map.mp member
    exact proper.columns column columnMember
  · rw [columns, List.map_map]
    exact proper.distinct
  · rw [time]
    exact time_mem_zip event accepted
  · exact (statements_classOf event).1
  · exact (statements_classOf event).2
  · rw [stored_classOf, attributes_classOf]
  · rw [stored_classOf, retrieved_classOf]
  · rw [stored_classOf]
    exact attributeNames_nodup event accepted
  · simp [classOf, EventClass.ofEntity]
  · intro decoding member
    simp only [classOf, EventClass.ofEntity, stored] at member
    obtain ⟨field, fieldMember, rfl⟩ := List.mem_map.mp member
    exact width_of_mem_fieldsOf event field fieldMember

end Compilation

end EventForge
