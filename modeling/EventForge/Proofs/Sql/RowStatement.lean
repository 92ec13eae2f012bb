import EventForge.Proofs.Sql.DefinitionStatement

/-!
# Reading insertions and queries

Spelled tokens that insert a row of parameters, or ask for columns of the rows of a table in a range,
are read as the statement that they are meant to be.
-/

namespace EventForge

open SqlToken

namespace SqlToken

variable {Item : Type}

/-- Items with commas between them and a blank in front of each. -/
def spaced (tokens : Text → Item → List SqlToken) : List Item → List SqlToken
  | [] => []
  | item :: items => tokens blank item ++ listedBehind tokens items

/-- The token of a name in a list. -/
def ofName (before name : Text) : List SqlToken := [ofWord before name]

/-- The token of a parameter in a list. -/
def ofParameter (before : Text) (number : Nat) : List SqlToken := [ofNumber before number]

/-- The numbers of the parameters for some columns. -/
def parameterNumbers (count : Nat) : List Nat := (List.range count).map fun index => index + 1

end SqlToken

namespace SqlReader

/-- A list whose items are all spaced is read item by item. -/
theorem list_spaced {Item Value : Type} (reader : SqlReader Value)
    (tokens : Text → Item → List SqlToken) (value : Item → Value) (ends : List SqlToken → Prop)
    (rest : List SqlToken) (endsComma : ∀ later, ends (comma :: later)) (endsRest : ends rest)
    (noComma : symbol "," rest = .ok (false, rest)) (items : List Item) (inhabited : items ≠ [])
    (each : ∀ item ∈ items, ∀ before later, ends later →
      reader (tokens before item ++ later) = .ok (value item, later)) :
    list reader (spaced tokens items ++ rest) = .ok (items.map value, rest) := by
  cases items with
  | nil => exact absurd rfl inhabited
  | cons item items =>
      have behind : items.length ≤ (listedBehind tokens items).length := by
        clear each inhabited
        induction items with
        | nil => simp
        | cons next items ih =>
            simp [listedBehind]
            omega
      have enough : items.length < (spaced tokens (item :: items) ++ rest).length + 1 := by
        simp [spaced]
        omega
      have read := separated_listed reader tokens value ends rest endsComma endsRest noComma blank
        item items each _ enough
      simp only [list, run_bind, count, Outcome.ok_bind]
      rw [spaced, List.append_assoc] at *
      exact read

/-! ## First words -/

theorem lower_insert : ("INSERT" : Text).toAsciiLower = "insert" := by
  rw [Text.ofString_ofList, Text.ofString_ofList]
  rfl

theorem lower_into : ("INTO" : Text).toAsciiLower = "into" := by
  rw [Text.ofString_ofList, Text.ofString_ofList]
  rfl

theorem lower_values : ("VALUES" : Text).toAsciiLower = "values" := by
  rw [Text.ofString_ofList, Text.ofString_ofList]
  rfl

theorem lower_select : ("SELECT" : Text).toAsciiLower = "select" := by
  rw [Text.ofString_ofList, Text.ofString_ofList]
  rfl

theorem lower_from : ("FROM" : Text).toAsciiLower = "from" := by
  rw [Text.ofString_ofList, Text.ofString_ofList]
  rfl

theorem lower_where : ("WHERE" : Text).toAsciiLower = "where" := by
  rw [Text.ofString_ofList, Text.ofString_ofList]
  rfl

theorem lower_between : ("BETWEEN" : Text).toAsciiLower = "between" := by
  rw [Text.ofString_ofList, Text.ofString_ofList]
  rfl

theorem lower_and : ("AND" : Text).toAsciiLower = "and" := by
  rw [Text.ofString_ofList, Text.ofString_ofList]
  rfl

section FirstWord

variable {written lower : Text} (lowered : written.toAsciiLower = lower) (before : Text)
  (tokens : List SqlToken)

include lowered

/-- A statement without tables of its own. -/
theorem commonTables_other (other : lower ≠ "with") :
    commonTables (ofWord before written :: tokens) = .ok ([], ofWord before written :: tokens) := by
  obtain ⟨depth, enough⟩ : ∃ depth, 16 * ((ofWord before written :: tokens).length + 1) = depth + 1 :=
    ⟨16 * ((ofWord before written :: tokens).length + 1) - 1, by omega⟩
  have notWith := word_other lowered before tokens "with" other
  simp only [commonTables, fuel, run_bind, count, Outcome.ok_bind, run_pure, enough, commonTablesAt,
    notWith, run_ite, Bool.false_eq_true, if_false]

/-- A statement on rows is told from others by its first word. -/
theorem statement_rows {row : RowStatement}
    (other : lower ∉ (["pragma", "create", "alter", "drop", "analyze"] : List Text) ++ idleWords)
    (known : lower ∈ (["insert", "replace", "update", "delete", "select", "values", "with"] : List Text))
    (read : rowStatement (ofWord before written :: tokens) = .ok (row, [])) :
    statement (ofWord before written :: tokens) = .ok (.rows row, []) := by
  rw [List.mem_append, not_or] at other
  have notFirst := word_of_not_mem lowered before tokens _ other.1
  have notIdle := atWords_of_not_mem lowered before tokens idleWords other.2
  have isRow := atWords_of_mem lowered before tokens _ known
  simp only [statement, run_bind, notFirst "pragma" (by simp), notFirst "create" (by simp),
    notFirst "alter" (by simp), notFirst "drop" (by simp), notFirst "analyze" (by simp),
    Outcome.ok_bind, run_ite, Bool.false_eq_true, if_false, notIdle, isRow, if_true, read, run_pure]

end FirstWord

/-! ## Insertions -/

/-- The insertion of a row of parameters. -/
def plainInsertion (table : Text) (names : List Text) : Insertion where
  table := plainObject table
  columns := some names
  rows := some (.values [(parameterNumbers names.length).map fun number =>
    .parameter (Text.ofNat number)])

/-- The tokens of the insertion of a row of parameters. -/
def insertTokens (table : Text) (names : List Text) : List SqlToken :=
  ofWord [] "INSERT" :: ofWord blank "INTO" :: ofWord blank table :: opening blank ::
    (listed ofName names ++ closing :: ofWord blank "VALUES" :: opening blank ::
      (listed ofParameter (parameterNumbers names.length) ++ [closing]))

theorem enclosed_names (before : Text) (names : List Text) (inhabited : names ≠ [])
    (usable : ∀ name ∈ names, Identifier.isUsable name = true) (rest : List SqlToken) :
    enclosed name (opening before :: (listed ofName names ++ closing :: rest)) =
      .ok (names, rest) := by
  have opens : need "(" (opening before :: (listed ofName names ++ closing :: rest)) =
      .ok ((), listed ofName names ++ closing :: rest) := by rfl
  have read := list_listed name ofName id (fun _ => True) (closing :: rest) (fun _ => trivial) trivial
    (by rfl) names inhabited fun found member before later _ =>
      name_ofWord before found later (usable found member)
  have closes : need ")" (closing :: rest) = .ok ((), rest) := by rfl
  simp only [enclosed, run_bind, opens, Outcome.ok_bind, read, closes, run_pure, List.map_id]

theorem enclosed_parameters (depth : Nat) (before : Text) (numbers : List Nat)
    (inhabited : numbers ≠ []) (rest : List SqlToken) :
    enclosed (expressionAt (depth + 3) 0)
        (opening before :: (listed ofParameter numbers ++ closing :: rest)) =
      .ok (numbers.map fun number => .parameter (Text.ofNat number), rest) := by
  have opens : need "(" (opening before :: (listed ofParameter numbers ++ closing :: rest)) =
      .ok ((), listed ofParameter numbers ++ closing :: rest) := by rfl
  have read := list_listed (expressionAt (depth + 3) 0) ofParameter
    (fun number => .parameter (Text.ofNat number)) (Stops 0) (closing :: rest)
    (fun later => .comma [] later) (.closing [] rest) (by rfl) numbers inhabited
    fun number _ before later stops => expressionAt_ofNumber depth 0 before number later stops
  have closes : need ")" (closing :: rest) = .ok ((), rest) := by rfl
  simp only [enclosed, run_bind, opens, Outcome.ok_bind, read, closes, run_pure]

/-- A query without more behind it. -/
theorem query_of_core (tokens : List SqlToken) (found : SqlQuery)
    (notWith : word "with" tokens = .ok (false, tokens))
    (core : ∀ depth, coreAt (depth + 8) tokens = .ok (found, [])) :
    query tokens = .ok (found, []) := by
  obtain ⟨depth, enough⟩ : ∃ depth, 16 * (tokens.length + 1) = depth + 10 :=
    ⟨16 * (tokens.length + 1) - 10, by omega⟩
  have noTables : commonTablesAt (depth + 9) tokens = .ok ([], tokens) := by
    simp only [commonTablesAt, run_bind, notWith, Outcome.ok_bind, run_ite, Bool.false_eq_true, if_false,
      run_pure]
  have alone : compoundBehind (depth + 8) found [] = .ok (found, []) := by rfl
  have noLimit : limitAt (depth + 8) [] = .ok ((none, none), []) := by rfl
  have compound : compoundAt (depth + 9) tokens = .ok (found, []) := by
    simp only [compoundAt, run_bind, core, Outcome.ok_bind, alone, word_nil, run_ite,
      Bool.false_eq_true, if_false, run_pure, noLimit, List.isEmpty_nil, Option.isNone_none,
      Bool.and_self, if_true]
  simp only [query, fuel, run_bind, count, Outcome.ok_bind, run_pure, enough, queryAt, noTables,
    compound, List.isEmpty_nil, if_true]

theorem query_values (numbers : List Nat) (inhabited : numbers ≠ []) :
    query (ofWord blank "VALUES" :: opening blank :: (listed ofParameter numbers ++ [closing])) =
      .ok (.values [numbers.map fun number => .parameter (Text.ofNat number)], []) := by
  refine query_of_core _ _ (word_other lower_values blank _ "with" (by simp [Text.ofString_inj]))
    fun depth => ?_
  have row := enclosed_parameters (depth + 4) blank numbers inhabited []
  have rows : list (enclosed (expressionAt (depth + 7) 0))
      (opening blank :: (listed ofParameter numbers ++ [closing])) =
        .ok ([numbers.map fun number => .parameter (Text.ofNat number)], []) := by
    simp only [list, run_bind, count, Outcome.ok_bind, separated, row, symbol_nil, run_ite,
      Bool.false_eq_true, if_false, run_pure]
  have isValues := word_self lower_values blank
    (opening blank :: (listed ofParameter numbers ++ [closing]))
  simp only [coreAt, run_bind, isValues, Outcome.ok_bind, run_ite, if_true, rows, run_pure]

/-- What the insertion of a row of parameters is read as, behind its first word. -/
theorem insertionBehind_insert (table : Text) (names : List Text) (named : IsName table)
    (inhabited : names ≠ []) (usable : ∀ name ∈ names, Identifier.isUsable name = true) :
    insertionBehind false [] none (insertTokens table names).tail =
      .ok (.insert (plainInsertion table names), []) := by
  have numbers : parameterNumbers names.length ≠ [] := by
    simpa [parameterNumbers] using inhabited
  have read := query_values _ numbers
  have isQuery := atWords_of_mem lower_values blank (opening blank ::
    (listed ofParameter (parameterNumbers names.length) ++ [closing])) queryWords
    (by simp [queryWords])
  have notDefault := word_other lower_values blank (opening blank ::
    (listed ofParameter (parameterNumbers names.length) ++ [closing])) "default"
    (by simp [Text.ofString_inj])
  rw [insertTokens, List.tail_cons]
  generalize ofWord blank "VALUES" :: opening blank ::
    (listed ofParameter (parameterNumbers names.length) ++ [closing]) = values at *
  have listedNames := enclosed_names blank names inhabited usable values
  have notAs : word "as" (opening blank :: (listed ofName names ++ closing :: values)) =
      .ok (false, opening blank :: (listed ofName names ++ closing :: values)) := by rfl
  have opens : atSymbol "(" (opening blank :: (listed ofName names ++ closing :: values)) =
      .ok (true, opening blank :: (listed ofName names ++ closing :: values)) := by rfl
  have object := objectName_ofWord blank table
    (opening blank :: (listed ofName names ++ closing :: values)) named.usable (by rfl)
  have into := words_self lower_into blank
    (ofWord blank table :: opening blank :: (listed ofName names ++ closing :: values))
  have noUpserts : upserts 1 [] = .ok ([], []) := by rfl
  have noReturning : returning [] = .ok ([], []) := by rfl
  simp only [insertionBehind, run_bind, into, Outcome.ok_bind, object,
    Bool.not_false, wordIf, if_true, notAs, run_ite, Bool.false_eq_true, if_false, run_pure, opens,
    run_map, listedNames, notDefault, isQuery, Bool.not_true, read, List.isEmpty_nil, count,
    List.length_nil, Nat.zero_add, noUpserts, noReturning]
  rfl

/-- What the insertion of a row of parameters is read as. -/
theorem statement_insert (table : Text) (names : List Text) (named : IsName table)
    (inhabited : names ≠ []) (usable : ∀ name ∈ names, Identifier.isUsable name = true) :
    statement (insertTokens table names) = .ok (.rows (.insert (plainInsertion table names)), []) := by
  have behind := insertionBehind_insert table names named inhabited usable
  obtain ⟨rest, split⟩ : ∃ rest, insertTokens table names =
      ofWord [] "INSERT" :: ofWord blank "INTO" :: rest := ⟨_, rfl⟩
  rw [split, List.tail_cons] at behind
  rw [split]
  have noOr : orResolution (ofWord blank "INTO" :: rest) = .ok (none, ofWord blank "INTO" :: rest) := by
    have notOr := word_other lower_into blank rest "or" (by simp [Text.ofString_inj])
    simp only [orResolution, run_bind, notOr, Outcome.ok_bind, run_ite, Bool.false_eq_true, if_false,
      run_pure]
  have tables := commonTables_other lower_insert [] (ofWord blank "INTO" :: rest)
    (by simp [Text.ofString_inj])
  have isInsert := word_self lower_insert [] (ofWord blank "INTO" :: rest)
  apply statement_rows lower_insert
  · simp [idleWords, Text.ofString_inj]
  · simp
  · simp only [rowStatement, run_bind, tables, Outcome.ok_bind, isInsert, run_ite, if_true, noOr, behind]

/-! ## Queries of a range -/

/-- The query for columns of the rows of a table whose values in a column are between two
parameters. -/
def rangeQuery (table : Text) (names : List Text) (column : Text) : SqlQuery :=
  .select false (names.map fun name => .value (.column [name] false) none name)
    [.joined {} (.table none table none none) none []]
    (some (.between (.column [column] false) (.parameter "1") (.parameter "2"))) [] none

/-- The tokens behind the columns of a query. -/
def rangeTokens (table column : Text) : List SqlToken :=
  [ofWord blank "FROM", ofWord blank table, ofWord blank "WHERE", ofWord blank column,
    ofWord blank "BETWEEN", ofNumber blank 1, ofWord blank "AND", ofNumber blank 2]

/-- The tokens of a query for columns of a range of rows. -/
def selectTokens (table : Text) (names : List Text) (column : Text) : List SqlToken :=
  ofWord [] "SELECT" :: (spaced ofName names ++ rangeTokens table column)

/-- What stands behind a column of a query. -/
def EndsColumn (later : List SqlToken) : Prop :=
  (∃ rest, later = comma :: rest) ∨ ∃ rest, later = ofWord blank "FROM" :: rest

theorem resultColumnAt_ofName (depth : Nat) (before name : Text) (later : List SqlToken)
    (usable : Identifier.isUsable name = true) (ends : EndsColumn later) :
    resultColumnAt (depth + 5) (ofName before name ++ later) =
      .ok (.value (.column [name] false) none name, later) := by
  have stops : Stops 0 later := by
    rcases ends with ⟨rest, rfl⟩ | ⟨rest, rfl⟩
    · exact .comma [] rest
    · exact .source blank rest
  have noName : otherName later = .ok (none, later) := by
    rcases ends with ⟨rest, rfl⟩ | ⟨rest, rfl⟩
    · rfl
    · exact otherName_reserved lower_from blank rest (by simp [reservedWords, Text.ofString_inj])
        (by simp [Text.ofString_inj])
  have noStar : symbol "*" (ofWord before name :: later) = .ok (false, ofWord before name :: later) := by
    simp
  have expression := expressionAt_ofWord depth 0 before name later usable stops
  have value := spanned_append (expressionAt (depth + 3) 0) [ofWord before name] later _ expression
  have span : SqlToken.span [ofWord before name] = name := by
    simp [SqlToken.span, ofWord]
  have column : valueColumnAt (depth + 4) (ofWord before name :: later) =
      .ok (.value (.column [name] false) none name, later) := by
    simp only [List.cons_append, List.nil_append] at value
    simp only [valueColumnAt, run_bind, value, Outcome.ok_bind, noName, run_pure, span]
  have noDot : ∀ dot star rest, later = dot :: star :: rest → dot.isSymbol "." = false := by
    intro dot star rest same
    rcases ends with ⟨_, rfl⟩ | ⟨_, rfl⟩
    · rw [← (List.cons.inj same).1]
      rfl
    · rw [← (List.cons.inj same).1]
      rfl
  simp only [ofName, List.cons_append, List.nil_append, resultColumnAt, run_bind, noStar, Outcome.ok_bind,
    run_ite, Bool.false_eq_true, if_false, run_get]
  cases later with
  | nil => exact column
  | cons dot rest =>
      cases rest with
      | nil => exact column
      | cons star rest =>
          simp only [noDot dot star rest rfl, Bool.false_and, Bool.false_eq_true, if_false]
          exact column

/-- The range of a query. -/
theorem expressionAt_range (depth : Nat) (column : Text) (usable : Identifier.isUsable column = true) :
    expressionAt (depth + 6) 0
        [ofWord blank column, ofWord blank "BETWEEN", ofNumber blank 1, ofWord blank "AND",
          ofNumber blank 2] =
      .ok (.between (.column [column] false) (.parameter "1") (.parameter "2"), []) := by
  have operand := operandAt_ofWord (depth + 3) blank column
    [ofWord blank "BETWEEN", ofNumber blank 1, ofWord blank "AND", ofNumber blank 2] usable
    (isAlone_ofWord _ _ _)
  have low := expressionAt_ofNumber depth notStrength blank 1 [ofWord blank "AND", ofNumber blank 2]
    (.bound blank _ (by decide))
  have high := expressionAt_ofNumber depth (equalityStrength + 1) blank 2 [] .nil
  have alone : ∀ first, alternativesBehind (depth + 3) first [ofWord blank "AND", ofNumber blank 2] =
      .ok (first, [ofWord blank "AND", ofNumber blank 2]) := by
    intro first
    have notOr := word_other lower_and blank [ofNumber blank 2] "or" (by simp [Text.ofString_inj])
    simp only [alternativesBehind, run_bind, notOr, Outcome.ok_bind, run_ite, Bool.false_eq_true, if_false,
      run_pure]
  have isBetween := word_self lower_between blank [ofNumber blank 1, ofWord blank "AND",
    ofNumber blank 2]
  have ends := words_self lower_and blank [ofNumber blank 2]
  have one : Text.ofNat 1 = "1" := by decide
  have two : Text.ofNat 2 = "2" := by decide
  have compared : comparisonBehind (depth + 4) (.column [column] false)
      [ofWord blank "BETWEEN", ofNumber blank 1, ofWord blank "AND", ofNumber blank 2] =
        .ok (some (.between (.column [column] false) (.parameter "1") (.parameter "2")), []) := by
    simp only [comparisonBehind, run_bind, isBetween, Outcome.ok_bind, run_ite, if_true, low, alone, ends,
      high, run_pure, one, two]
  have noOperator : takeOperator 0 [ofWord blank "BETWEEN", ofNumber blank 1, ofWord blank "AND",
      ofNumber blank 2] = .ok (none, [ofWord blank "BETWEEN", ofNumber blank 1, ofWord blank "AND",
        ofNumber blank 2]) := by rfl
  have notWord := word_of_not_mem lower_between blank
    [ofNumber blank 1, ofWord blank "AND", ofNumber blank 2]
    ["collate", "not", "isnull", "notnull", "is"] (by simp [Text.ofString_inj])
  have last := operatorsBehind_stops (depth + 2) 0
    (.between (.column [column] false) (.parameter "1") (.parameter "2")) [] .nil
  have behind : operatorsBehind (depth + 5) 0 (.column [column] false)
      [ofWord blank "BETWEEN", ofNumber blank 1, ofWord blank "AND", ofNumber blank 2] =
        .ok (.between (.column [column] false) (.parameter "1") (.parameter "2"), []) := by
    rw [operatorsBehind]
    simp only [run_bind, noOperator, Outcome.ok_bind, wordIf, Nat.zero_le, decide_true,
      if_true, notWord "collate" (by simp), notWord "not" (by simp), notWord "isnull" (by simp),
      notWord "notnull" (by simp), notWord "is" (by simp), run_ite, Bool.false_eq_true, if_false,
      compared, last]
  simp only [expressionAt, run_bind, operand, Outcome.ok_bind, behind]

/-- The table of a query. -/
theorem sourcesAt_table (depth : Nat) (table : Text) (named : IsName table) (rest : List SqlToken) :
    sourcesAt (depth + 3) {} (ofWord blank table :: ofWord blank "WHERE" :: rest) =
      .ok ([.joined {} (.table none table none none) none []], ofWord blank "WHERE" :: rest) := by
  have other := word_other lower_where blank rest
  have object := objectName_ofWord blank table (ofWord blank "WHERE" :: rest) named.usable (by simp)
  have noValues : valuesAt (depth + 1) (ofWord blank "WHERE" :: rest) =
      .ok (none, ofWord blank "WHERE" :: rest) := by
    simp [valuesAt]
  have noName := otherName_reserved lower_where blank rest
    (by simp [reservedWords, Text.ofString_inj]) (by simp [Text.ofString_inj])
  have noHint : indexHint (ofWord blank "WHERE" :: rest) = .ok ((), ofWord blank "WHERE" :: rest) := by
    simp [indexHint, lower_where, Text.ofString_inj, nextIsWord]
  have notOpen : symbol "(" (ofWord blank table :: ofWord blank "WHERE" :: rest) =
      .ok (false, ofWord blank table :: ofWord blank "WHERE" :: rest) := by simp
  have source : sourceAt (depth + 2) (ofWord blank table :: ofWord blank "WHERE" :: rest) =
      .ok (.table none table none none, ofWord blank "WHERE" :: rest) := by
    simp only [sourceAt, run_bind, notOpen, Outcome.ok_bind, run_ite, Bool.false_eq_true, if_false, object,
      noValues, noName, noHint, run_pure, plainObject]
  have notOn := other "on" (by simp [Text.ofString_inj])
  have notUsing := other "using" (by simp [Text.ofString_inj])
  have noComma : symbol "," (ofWord blank "WHERE" :: rest) =
      .ok (false, ofWord blank "WHERE" :: rest) := by simp
  have notJoin := other "join" (by simp [Text.ofString_inj])
  have noKind := atWords_of_not_mem lower_where blank rest
    ["cross", "full", "inner", "left", "natural", "outer", "right"] (by simp [Text.ofString_inj])
  have noJoin : joinKind? (ofWord blank "WHERE" :: rest) = .ok (none, ofWord blank "WHERE" :: rest) := by
    simp only [joinKind?, run_bind, noComma, notJoin, noKind, Outcome.ok_bind, run_ite,
      Bool.false_eq_true, if_false, run_pure]
  simp only [sourcesAt, run_bind, source, Outcome.ok_bind, notOn, run_ite, Bool.false_eq_true, if_false,
    run_pure, wordIf, Option.isNone_none, if_true, notUsing, noJoin]

/-- A query of a range, read up to its end. -/
theorem coreAt_select (depth : Nat) (table : Text) (names : List Text) (column : Text)
    (named : IsName table) (inhabited : names ≠ [])
    (usable : ∀ name ∈ names, Identifier.isUsable name = true)
    (columnUsable : Identifier.isUsable column = true) :
    coreAt (depth + 8) (selectTokens table names column) =
      .ok (rangeQuery table names column, []) := by
  have first : ∀ text ∈ askedWords, word text (spaced ofName names ++ rangeTokens table column) =
      .ok (false, spaced ofName names ++ rangeTokens table column) := by
    intro text asked
    obtain ⟨name, others, rfl⟩ := List.exists_cons_of_ne_nil inhabited
    exact word_ofWord text blank name _ (usable name (by simp)) asked
  have notDistinct := first "distinct" (by simp [askedWords, Text.ofString_inj])
  have notAll := first "all" (by simp [askedWords, Text.ofString_inj])
  have columns := list_spaced (resultColumnAt (depth + 7)) ofName
    (fun name => .value (.column [name] false) none name) EndsColumn (rangeTokens table column)
    (fun later => .inl ⟨later, rfl⟩) (.inr ⟨_, rfl⟩) (by simp [rangeTokens]) names inhabited
    fun name member before later ends =>
      resultColumnAt_ofName (depth + 2) before name later (usable name member) ends
  have isFrom : word "from" (rangeTokens table column) =
      .ok (true, (rangeTokens table column).tail) := word_self lower_from blank _
  have sources := sourcesAt_table (depth + 4) table named
    [ofWord blank column, ofWord blank "BETWEEN", ofNumber blank 1, ofWord blank "AND",
      ofNumber blank 2]
  have isWhere := word_self lower_where blank
    [ofWord blank column, ofWord blank "BETWEEN", ofNumber blank 1, ofWord blank "AND",
      ofNumber blank 2]
  have range := expressionAt_range (depth + 1) column columnUsable
  have isSelect := words_self lower_select [] (spaced ofName names ++ rangeTokens table column)
  have notValues := word_other lower_select [] (spaced ofName names ++ rangeTokens table column)
    "values" (by simp [Text.ofString_inj])
  simp only [selectTokens, coreAt, run_bind, notValues, Outcome.ok_bind, run_ite, Bool.false_eq_true,
    if_false, isSelect, notDistinct, Bool.not_false, if_true, notAll, run_pure, columns, isFrom]
  simp only [rangeTokens, List.tail_cons, sources, Outcome.ok_bind, isWhere, run_map, if_true, range,
    word_nil, Bool.false_eq_true, if_false]
  rfl

/-- What a query for a range of rows is read as. -/
theorem statement_select (table : Text) (names : List Text) (column : Text) (named : IsName table)
    (inhabited : names ≠ []) (usable : ∀ name ∈ names, Identifier.isUsable name = true)
    (columnUsable : Identifier.isUsable column = true) :
    statement (selectTokens table names column) =
      .ok (.rows (.query (rangeQuery table names column)), []) := by
  have other := word_other lower_select [] (spaced ofName names ++ rangeTokens table column)
  have read : query (selectTokens table names column) = .ok (rangeQuery table names column, []) :=
    query_of_core _ _ (other "with" (by simp [Text.ofString_inj])) fun depth =>
      coreAt_select depth table names column named inhabited usable columnUsable
  have tables := commonTables_other lower_select [] (spaced ofName names ++ rangeTokens table column)
    (by simp [Text.ofString_inj])
  have notChange := word_of_not_mem lower_select [] (spaced ofName names ++ rangeTokens table column)
    ["insert", "replace", "update", "delete"] (by simp [Text.ofString_inj])
  apply statement_rows lower_select
  · simp [idleWords, Text.ofString_inj]
  · simp
  · simp only [rowStatement, run_bind, tables, Outcome.ok_bind,
      notChange "insert" (by simp), notChange "replace" (by simp), notChange "update" (by simp),
      notChange "delete" (by simp), run_ite, Bool.false_eq_true, if_false, List.isEmpty_nil, if_true, run_pure]
    rw [selectTokens] at read
    simp only [read, Outcome.ok_bind]

end SqlReader

end EventForge
