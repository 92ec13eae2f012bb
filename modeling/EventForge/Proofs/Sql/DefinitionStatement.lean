import EventForge.Proofs.Sql.FirstStatement

/-!
# Reading definitions

Spelled tokens that ask for the columns of a table, make a table or an index, or add a column are
read as the statement that they are meant to be.
-/

namespace EventForge

open SqlToken

/-- Whether a name is a plain ASCII identifier that is usable. -/
structure IsName (name : Text) : Prop where
  plain : Identifier.isPlain name = true
  usable : Identifier.isUsable name = true

namespace SqlToken

/-- Words, all but the first with a blank in front. -/
def words : List Text → List SqlToken := List.map (ofWord blank)

/-- The tokens of a column with its type. -/
def ofColumn (before : Text) (column : Text × Text) : List SqlToken :=
  [ofWord before column.1, ofWord blank column.2]

theorem spell_ofColumn (before : Text) (column : Text × Text) :
    spell (ofColumn before column) = before ++ (column.1 ++ " " ++ column.2) := by
  simp [ofColumn, ofWord]
  rfl

/-- The types of columns. -/
def IsColumnType (type : Text) : Prop := type = "INTEGER" ∨ type = "BIGINT"

theorem isName_of_isColumnType {type : Text} (known : IsColumnType type) : IsName type := by
  have integer : ("INTEGER" : Text).toAsciiLower = ("integer" : Text) := by decide
  have bigint : ("BIGINT" : Text).toAsciiLower = ("bigint" : Text) := by decide
  rcases known with rfl | rfl
  · refine ⟨by decide, (Identifier.isUsable_iff _).mpr ⟨by decide, ?_, by decide⟩⟩
    rw [integer]
    simp [Identifier.databaseWords, Text.ofString_inj]
  · refine ⟨by decide, (Identifier.isUsable_iff _).mpr ⟨by decide, ?_, by decide⟩⟩
    rw [bigint]
    simp [Identifier.databaseWords, Text.ofString_inj]

theorem endsWord_blank (written : Text) (tokens : List SqlToken) :
    EndsWord (spell (ofWord blank written :: tokens)) := by
  intro point first
  exact Or.inl (Option.some.inj first).symm

theorem endsWord_opening (before : Text) (spaced : before = [] ∨ before = blank)
    (tokens : List SqlToken) : EndsWord (spell (opening before :: tokens)) := by
  intro point first
  rcases spaced with rfl | rfl
  · exact Or.inr (Or.inr (Or.inr (Option.some.inj first).symm))
  · exact Or.inl (Option.some.inj first).symm

theorem endsVariable_closing (tokens : List SqlToken) :
    EndsVariable (spell (closing :: tokens)) := by
  intro point first
  exact Or.inr (Or.inr (Option.some.inj first).symm)

theorem endsWord_of_endsVariable (text : Text) (ends : EndsVariable text) : EndsWord text := by
  intro point first
  rcases ends point first with same | same | same
  · exact Or.inl same
  · exact Or.inr (Or.inl same)
  · exact Or.inr (Or.inr (Or.inl same))

theorem spells_closing (tokens : List SqlToken) (spelled : Spells tokens) :
    Spells (closing :: tokens) :=
  .symbol (Or.inl rfl) (Or.inr (Or.inr rfl)) spelled

theorem spells_opening (before : Text) (spaced : before = [] ∨ before = blank)
    (tokens : List SqlToken) (spelled : Spells tokens) : Spells (opening before :: tokens) :=
  .symbol spaced (Or.inr (Or.inl rfl)) spelled

/-- A word with a blank behind it. -/
theorem spells_word (before written next : Text) (tokens : List SqlToken)
    (spaced : before = [] ∨ before = blank) (plain : Identifier.isPlain written = true)
    (spelled : Spells (ofWord blank next :: tokens)) :
    Spells (ofWord before written :: ofWord blank next :: tokens) :=
  .word spaced plain (endsWord_blank next tokens) spelled

theorem spells_ofColumn (column : Text × Text) (plain : Identifier.isPlain column.1 = true)
    (type : Identifier.isPlain column.2 = true) (before : Text) (later : List SqlToken)
    (spaced : before = [] ∨ before = blank) (spelled : Spells later)
    (ends : EndsVariable (spell later)) : Spells (ofColumn before column ++ later) :=
  .word spaced plain (endsWord_blank _ _)
    (.word (Or.inr rfl) type (endsWord_of_endsVariable _ ends) spelled)

end SqlToken

namespace SqlReader

/-- The tokens that a reader takes are those in front of the rest. -/
theorem spanned_append {Value : Type} (reader : SqlReader Value) (tokens rest : List SqlToken)
    (value : Value) (read : reader (tokens ++ rest) = .ok (value, rest)) :
    spanned reader (tokens ++ rest) = .ok ((value, tokens), rest) := by
  have taken : (tokens ++ rest).take ((tokens ++ rest).length - rest.length) = tokens := by
    rw [List.length_append, Nat.add_sub_cancel, List.take_left]
  simp only [spanned, read, Outcome.ok_bind, taken, Outcome.pure_eq_ok]

/-- A name without a database in front of it. -/
def plainObject (name : Text) : ObjectName := { name, written := name }

theorem objectName_ofWord (before found : Text) (tokens : List SqlToken)
    (usable : Identifier.isUsable found = true) (alone : symbol "." tokens = .ok (false, tokens)) :
    objectName (ofWord before found :: tokens) = .ok (plainObject found, tokens) := by
  have named := spanned_append name [ofWord before found] tokens found
    (name_ofWord before found tokens usable)
  simp only [List.cons_append, List.nil_append] at named
  simp only [objectName, run_bind, named, Outcome.ok_bind, alone, run_ite, Bool.false_eq_true,
    if_false, run_pure]
  simp [plainObject, span, ofWord]

/-- What `pragma table_info` is read as. -/
theorem statement_tableInfo (table : Text) (named : IsName table) :
    statement [ofWord [] "PRAGMA", ofWord blank "table_info", opening [], ofWord [] table,
        closing] = .ok (.tableInfo table, []) := by
  have usable : Identifier.isUsable "table_info" = true :=
    Identifier.isUsable_of_lower _ (by decide) (by decide)
      (by simp [Identifier.databaseWords, Text.ofString_inj]) (by decide)
  have setting := objectName_ofWord blank "table_info" [opening [], ofWord [] table, closing] usable
    (by rfl)
  have known := nameOf?_ofWord [] table named.usable
  have notOn := lower_ne_of_isUsable table "on" named.usable
    (by simp [askedWords, Text.ofString_inj])
  have notDelete := lower_ne_of_isUsable table "delete" named.usable
    (by simp [askedWords, Text.ofString_inj])
  have notDefault := lower_ne_of_isUsable table "default" named.usable
    (by simp [askedWords, Text.ofString_inj])
  have value : pragmaValue [ofWord [] table, closing] = .ok (table, [closing]) := by
    simp [pragmaValue, known, notOn, notDelete, notDefault]
  have opens : (opening []).isSymbol "(" = true := by decide
  have closes : closing.isSymbol ")" = true := by decide
  have isPragma : ("PRAGMA" : Text).toAsciiLower = ("pragma" : Text) := by decide
  have isSetting : ("table_info" : Text).toAsciiLower = ("table_info" : Text) := by decide
  simp [statement, pragma, isPragma, setting, value, opens, need_of_isSymbol ")" closing [] closes,
    plainObject, isSetting]

/-- Whether a comma or a closing parenthesis stands first, if anything. -/
inductive EndsItem : List SqlToken → Prop
  | nil : EndsItem []
  | comma (tokens : List SqlToken) : EndsItem (comma :: tokens)
  | closing (tokens : List SqlToken) : EndsItem (closing :: tokens)

/-- What a type is kept as: without words that announce a generated column, and without quotation
marks. -/
def keptType (type : Text) : Text := unquoted (unwrapped (storedType type))

/-- A column with its type as it is kept. -/
def kept (column : Text × Text) : Text × Text := (column.1, keptType column.2)

@[simp] theorem kept_fst (column : Text × Text) : (kept column).1 = column.1 := rfl

theorem kept_eq (column : Text × Text) (known : IsColumnType column.2) : kept column = column := by
  obtain ⟨name, type⟩ := column
  rcases known with same | same
  · obtain rfl : type = "INTEGER" := same
    rfl
  · obtain rfl : type = "BIGINT" := same
    rfl

theorem map_kept (columns : List (Text × Text)) (types : ∀ column ∈ columns, IsColumnType column.2) :
    columns.map kept = columns :=
  (List.map_congr_left fun column member => kept_eq column (types column member)).trans
    (List.map_id columns)

theorem typeName_ofWord (type : Text) (named : IsName type) (later : List SqlToken)
    (ends : EndsItem later) : typeName (ofWord blank type :: later) = .ok (type, later) := by
  have plain : (plainName? (ofWord blank type)).isSome = true := by
    rw [plainName?_ofWord blank type named.usable]
    rfl
  have words : typeWords (ofWord blank type :: later) = [ofWord blank type] := by
    cases ends with
    | nil => simp only [typeWords, plain, if_true]
    | comma => simp only [typeWords, plain, if_true]; rfl
    | closing => simp only [typeWords, plain, if_true]; rfl
  have noSize : sizes later = .ok ((), later) := by
    cases ends <;> rfl
  have read : typeTokens (ofWord blank type :: later) = .ok ((), later) := by
    simp [typeTokens, words, noSize]
  have taken := spanned_append typeTokens [ofWord blank type] later () read
  simp only [List.cons_append, List.nil_append] at taken
  simp only [typeName, run_bind, taken, Outcome.ok_bind, run_pure]
  simp [span, ofWord]

theorem columnElement_ofColumn (before : Text) (column : Text × Text) (name : IsName column.1)
    (type : IsName column.2) (later : List SqlToken) (ends : EndsItem later) :
    columnElement (ofColumn before column ++ later) =
      .ok (.column column.1 (keptType column.2), later) := by
  have named := name_ofWord before column.1 (ofWord blank column.2 :: later) name.usable
  have typed := typeName_ofWord column.2 type later ends
  simp only [ofColumn, List.cons_append, List.nil_append, columnElement, run_bind, named,
    Outcome.ok_bind, typed, run_pure, keptType]

/-- The elements that columns behind others are read as. -/
def laterElements (columns : List (Text × Text)) : List TableElement :=
  columns.flatMap fun column => [.remark, .column column.1 column.2]

/-- The elements that columns are read as. -/
def columnElements : List (Text × Text) → List TableElement
  | [] => []
  | column :: columns => .column column.1 column.2 :: laterElements columns

theorem tableRule_ofColumn (column : Text × Text) (name : IsName column.1)
    (later : List SqlToken) :
    atWords tableRuleWords (ofColumn blank column ++ later) =
      .ok (false, ofColumn blank column ++ later) := by
  have asked : ∀ word ∈ tableRuleWords, word ∈ askedWords := by
    simp [tableRuleWords, askedWords, Text.ofString_inj]
  apply atWords_of_not_mem rfl
  exact fun member => lower_ne_of_isUsable column.1 _ name.usable (asked _ member) rfl

theorem endsItem_listedBehind (columns : List (Text × Text)) (rest : List SqlToken) :
    EndsItem (listedBehind ofColumn columns ++ closing :: rest) := by
  cases columns with
  | nil => exact .closing _
  | cons => exact .comma _

/-- Columns behind another one are read up to the closing parenthesis. -/
theorem elements_listedBehind (columns : List (Text × Text))
    (names : ∀ column ∈ columns, IsName column.1)
    (types : ∀ column ∈ columns, IsName column.2) (rest : List SqlToken) (fuel : Nat)
    (enough : 2 * columns.length < fuel) :
    elements false fuel (.columnRule none) (listedBehind ofColumn columns ++ closing :: rest) =
      { elements := laterElements (columns.map kept), broken := none, rest := closing :: rest } := by
  induction columns generalizing fuel with
  | nil =>
      obtain ⟨fuel, rfl⟩ : ∃ more, fuel = more + 1 := ⟨fuel - 1, by simp at enough; omega⟩
      rfl
  | cons column columns ih =>
      obtain ⟨fuel, rfl⟩ : ∃ more, fuel = more + 1 + 1 :=
        ⟨fuel - 2, by simp at enough; omega⟩
      have name := names column (by simp)
      have type := types column (by simp)
      have others := ih (fun other member => names other (by simp [member]))
        (fun other member => types other (by simp [member])) fuel (by simp at enough; omega)
      have noRule := tableRule_ofColumn column name
        (listedBehind ofColumn columns ++ closing :: rest)
      have read := columnElement_ofColumn blank column name type
        (listedBehind ofColumn columns ++ closing :: rest) (endsItem_listedBehind columns rest)
      have isComma : comma.isSymbol "," = true := by decide
      have behind : element false (.columnRule none)
          (comma :: (ofColumn blank column ++
            (listedBehind ofColumn columns ++ closing :: rest))) =
          .ok (some (.remark, .later), ofColumn blank column ++
            (listedBehind ofColumn columns ++ closing :: rest)) := by
        simp [element, isComma]
      have next : element false .later (ofColumn blank column ++
            (listedBehind ofColumn columns ++ closing :: rest)) =
          .ok (some (.column column.1 (keptType column.2), .columnRule none),
            listedBehind ofColumn columns ++ closing :: rest) := by
        simp only [element, run_bind, noRule, Outcome.ok_bind, run_ite, Bool.false_eq_true,
          if_false, read, run_pure]
      simp only [listedBehind, List.cons_append, List.append_assoc, elements, behind, next, others]
      rfl

theorem elements_listed (columns : List (Text × Text)) (inhabited : columns ≠ [])
    (names : ∀ column ∈ columns, IsName column.1)
    (types : ∀ column ∈ columns, IsName column.2) (rest : List SqlToken) (fuel : Nat)
    (enough : 2 * columns.length < fuel) :
    elements false fuel .column (listed ofColumn columns ++ closing :: rest) =
      { elements := columnElements (columns.map kept), broken := none, rest := closing :: rest } := by
  cases columns with
  | nil => exact absurd rfl inhabited
  | cons column columns =>
      obtain ⟨fuel, rfl⟩ : ∃ more, fuel = more + 1 := ⟨fuel - 1, by simp at enough; omega⟩
      have others := elements_listedBehind columns
        (fun other member => names other (by simp [member]))
        (fun other member => types other (by simp [member])) rest fuel
        (by simp at enough; omega)
      have read := columnElement_ofColumn [] column (names column (by simp))
        (types column (by simp)) (listedBehind ofColumn columns ++ closing :: rest)
        (endsItem_listedBehind columns rest)
      have first : element false .column (ofColumn [] column ++
            (listedBehind ofColumn columns ++ closing :: rest)) =
          .ok (some (.column column.1 (keptType column.2), .columnRule none),
            listedBehind ofColumn columns ++ closing :: rest) := by
        simp only [element, run_bind, read, Outcome.ok_bind, run_pure]
      simp only [listed, List.append_assoc, elements, first, others]
      rfl

theorem ifAbsent_words (tokens : List SqlToken) :
    ifAbsent (ofWord blank "IF" :: ofWord blank "NOT" :: ofWord blank "EXISTS" :: tokens) =
      .ok (true, tokens) := rfl

theorem statement_create (tokens : List SqlToken) :
    statement (ofWord [] "CREATE" :: tokens) = create tokens := by
  have isCreate : ("CREATE" : Text).toAsciiLower = ("create" : Text) := by decide
  have notPragma : ("create" : Text) ≠ ("pragma" : Text) := by decide
  simp [statement, isCreate, notPragma]

/-- What the making of a table is read as. -/
theorem statement_createTable (table : Text) (columns : List (Text × Text)) (named : IsName table)
    (inhabited : columns ≠ []) (names : ∀ column ∈ columns, IsName column.1)
    (types : ∀ column ∈ columns, IsName column.2) :
    statement (ofWord [] "CREATE" :: ofWord blank "TABLE" :: ofWord blank "IF" ::
        ofWord blank "NOT" :: ofWord blank "EXISTS" :: ofWord blank table :: opening blank ::
        (listed ofColumn columns ++ [closing])) =
      .ok (.createTable { ifAbsent := true, name := plainObject table
                          elements := columnElements (columns.map kept), ending := .ok [] }, []) := by
  have absent := ifAbsent_words
    (ofWord blank table :: opening blank :: (listed ofColumn columns ++ [closing]))
  have object := objectName_ofWord blank table
    (opening blank :: (listed ofColumn columns ++ [closing])) named.usable (by rfl)
  have opens : need "(" (opening blank :: (listed ofColumn columns ++ [closing])) =
      .ok ((), listed ofColumn columns ++ [closing]) := by rfl
  have enough : 2 * columns.length < (listed ofColumn columns ++ [closing]).length + 1 := by
    have behind : ∀ others : List (Text × Text),
        2 * others.length ≤ (listedBehind ofColumn others).length := by
      intro others
      induction others with
      | nil => simp
      | cons other others ih =>
          simp [listedBehind, ofColumn]
          omega
    cases columns with
    | nil => simp
    | cons column columns =>
        have rest := behind columns
        simp [listed, ofColumn]
        omega
  have part := elements_listed columns inhabited names types [] _ enough
  have ends : (do need ")"; tableOptions : SqlReader (List TableOption)) [closing] =
      .ok ([], []) := by rfl
  have behind : tableBehind false true (plainObject table)
      (opening blank :: (listed ofColumn columns ++ [closing])) =
      .ok (.createTable { ifAbsent := true, name := plainObject table
                          elements := columnElements (columns.map kept), ending := .ok [] }, []) := by
    simp only [tableBehind, opens, part, ends]
    rfl
  have notAs : word "as" (opening blank :: (listed ofColumn columns ++ [closing])) =
      .ok (false, opening blank :: (listed ofColumn columns ++ [closing])) := by rfl
  have creates : create (ofWord blank "TABLE" :: ofWord blank "IF" ::
        ofWord blank "NOT" :: ofWord blank "EXISTS" :: ofWord blank table :: opening blank ::
        (listed ofColumn columns ++ [closing])) =
      createTable false (ofWord blank "IF" ::
        ofWord blank "NOT" :: ofWord blank "EXISTS" :: ofWord blank table :: opening blank ::
        (listed ofColumn columns ++ [closing])) := by rfl
  rw [statement_create, creates]
  simp only [createTable, run_bind, absent, Outcome.ok_bind, object, notAs, run_ite,
    Bool.false_eq_true, if_false, behind]

/-- A table without elements is broken behind its opening parenthesis. -/
theorem statement_createTable_nil (table : Text) (named : IsName table) :
    ∃ fault, statement [ofWord [] "CREATE", ofWord blank "TABLE", ofWord blank "IF",
        ofWord blank "NOT", ofWord blank "EXISTS", ofWord blank table, opening blank, closing] =
      .ok (.createTable { ifAbsent := true, name := plainObject table, elements := []
                          ending := .error fault }, []) := by
  have absent := ifAbsent_words [ofWord blank table, opening blank, closing]
  have object := objectName_ofWord blank table [opening blank, closing] named.usable (by rfl)
  have creates : create [ofWord blank "TABLE", ofWord blank "IF", ofWord blank "NOT",
        ofWord blank "EXISTS", ofWord blank table, opening blank, closing] =
      createTable false [ofWord blank "IF", ofWord blank "NOT", ofWord blank "EXISTS",
        ofWord blank table, opening blank, closing] := by rfl
  have notAs : word "as" [opening blank, closing] = .ok (false, [opening blank, closing]) := by rfl
  have behind : ∃ fault, tableBehind false true (plainObject table) [opening blank, closing] =
      .ok (.createTable { ifAbsent := true, name := plainObject table, elements := []
                          ending := .error fault }, []) := ⟨_, rfl⟩
  obtain ⟨fault, behind⟩ := behind
  refine ⟨fault, ?_⟩
  rw [statement_create, creates]
  simp only [createTable, run_bind, absent, Outcome.ok_bind, object, notAs, run_ite,
    Bool.false_eq_true, if_false, behind]

theorem orderTerm_ofWord (column : Text) (later : List SqlToken)
    (usable : Identifier.isUsable column = true) :
    orderTerm (ofWord [] column :: closing :: later) =
      .ok (.by (.column [column] false) false none, closing :: later) := by
  obtain ⟨depth, enough⟩ : ∃ depth, 16 * ((ofWord [] column :: closing :: later).length + 1) =
      depth + 3 + 1 := ⟨16 * ((closing :: later).length + 2) - 4, by simp; omega⟩
  have value := expressionAt_ofWord depth 0 [] column (closing :: later) usable (.closing [] _)
  have noOrder : descending (closing :: later) = .ok (false, closing :: later) := by rfl
  have noNulls : word "nulls" (closing :: later) = .ok (false, closing :: later) := by rfl
  simp only [orderTerm, fuel, run_bind, count, Outcome.ok_bind, run_pure, enough, orderTermAt,
    value, noOrder, noNulls, run_ite, Bool.false_eq_true, if_false]

/-- What the making of the index on a time is read as. -/
theorem statement_createIndex (index table column : Text) (indexNamed : IsName index)
    (named : IsName table) (columnNamed : IsName column) :
    statement [ofWord [] "CREATE", ofWord blank "INDEX", ofWord blank "IF", ofWord blank "NOT",
        ofWord blank "EXISTS", ofWord blank index, ofWord blank "ON", ofWord blank table,
        opening blank, ofWord [] column, closing] =
      .ok (.createIndex { ifAbsent := true, name := plainObject index, table
                          terms := [.by (.column [column] false) false none] }, []) := by
  have creates : ∀ tokens, create (ofWord blank "INDEX" :: tokens) = createIndex false tokens := by
    intro tokens
    have isIndex : ("INDEX" : Text).toAsciiLower = ("index" : Text) := by decide
    have notUnique : ("index" : Text) ≠ ("unique" : Text) := by decide
    simp [create, isIndex, notUnique]
  have absent := ifAbsent_words
    [ofWord blank index, ofWord blank "ON", ofWord blank table, opening blank, ofWord [] column,
      closing]
  have object := objectName_ofWord blank index
    [ofWord blank "ON", ofWord blank table, opening blank, ofWord [] column, closing]
    indexNamed.usable (by rfl)
  have on : ∀ tokens, words ["on"] (ofWord blank "ON" :: tokens) = .ok ((), tokens) := by
    intro tokens
    rfl
  have tableRead := name_ofWord blank table [opening blank, ofWord [] column, closing] named.usable
  have opens : ∀ tokens, need "(" (opening blank :: tokens) = .ok ((), tokens) := by
    intro tokens
    rfl
  have term := orderTerm_ofWord column [] columnNamed.usable
  have noComma : symbol "," [closing] = .ok (false, [closing]) := by rfl
  have closes : need ")" [closing] = .ok ((), []) := by rfl
  have terms : enclosed orderTerm [opening blank, ofWord [] column, closing] =
      .ok ([.by (.column [column] false) false none], []) := by
    simp only [enclosed, run_bind, opens, Outcome.ok_bind, list, count, separated, term, noComma,
      run_ite, Bool.false_eq_true, if_false, run_pure, closes]
  rw [statement_create, creates]
  simp only [createIndex, run_bind, absent, Outcome.ok_bind, object, on, tableRead, terms,
    word_nil, run_ite, Bool.false_eq_true, if_false, run_pure]

theorem statement_alter (tokens : List SqlToken) :
    statement (ofWord [] "ALTER" :: ofWord blank "TABLE" :: tokens) = alterTable tokens := by
  have isAlter : ("ALTER" : Text).toAsciiLower = ("alter" : Text) := by decide
  have notPragma : ("alter" : Text) ≠ ("pragma" : Text) := by decide
  have notCreate : ("alter" : Text) ≠ ("create" : Text) := by decide
  have behind : words ["table"] (ofWord blank "TABLE" :: tokens) = .ok ((), tokens) := by rfl
  simp [statement, isAlter, notPragma, notCreate, behind]

/-- What the addition of a column is read as. -/
theorem statement_addColumn (table : Text) (column : Text × Text) (named : IsName table)
    (columnNamed : IsName column.1) (type : IsName column.2) :
    statement (ofWord [] "ALTER" :: ofWord blank "TABLE" :: ofWord blank table ::
        ofWord blank "ADD" :: ofWord blank "COLUMN" :: ofColumn blank column) =
      .ok (.addColumn (plainObject table) [.column column.1 (keptType column.2)] none false, []) := by
  have object := objectName_ofWord blank table
    (ofWord blank "ADD" :: ofWord blank "COLUMN" :: ofColumn blank column) named.usable (by rfl)
  have notDrop : ∀ tokens, word "drop" (ofWord blank "ADD" :: tokens) =
      .ok (false, ofWord blank "ADD" :: tokens) := by
    intro tokens
    rfl
  have notRename : ∀ tokens, word "rename" (ofWord blank "ADD" :: tokens) =
      .ok (false, ofWord blank "ADD" :: tokens) := by
    intro tokens
    rfl
  have add : ∀ tokens, words ["add"] (ofWord blank "ADD" :: tokens) = .ok ((), tokens) := by
    intro tokens
    rfl
  have skips : ∀ tokens, word "column" (ofWord blank "COLUMN" :: tokens) = .ok (true, tokens) := by
    intro tokens
    rfl
  have read := columnElement_ofColumn blank column columnNamed type [] .nil
  rw [List.append_nil] at read
  have part : elements true ((ofColumn blank column).length + 1) .column
      (ofColumn blank column) =
      { elements := [.column column.1 (keptType column.2)], broken := none, rest := [] } := by
    have first : element true .column (ofColumn blank column) =
        .ok (some (.column column.1 (keptType column.2), .columnRule none), []) := by
      simp only [element, run_bind, read, Outcome.ok_bind, run_pure]
    have last : element true (.columnRule none) [] = .ok (none, []) := by rfl
    simp [ofColumn] at first ⊢
    simp [elements, first, last]
  rw [statement_alter]
  simp only [alterTable, run_bind, object, Outcome.ok_bind, notDrop, notRename, add, skips, run_get,
    part, run_set, run_ite, Bool.false_eq_true, if_false, Option.isSome_none, Option.map_none,
    run_pure]

end SqlReader

end EventForge
