import Mathlib.Tactic.IntervalCases
import EventForge.Proofs.Module.Search
import EventForge.Proofs.Schema.Identifier

/-!
# Reading a class back

The lines of a class with plain names read back as the class, whatever lines of other parts of the
module stand behind them.
-/

namespace EventForge

namespace ModuleText

/-- Whether all that a class writes outside of literals is plain. -/
structure IsPlainClass (eventClass : EventClass) : Prop where
  name : Identifier.isPlain eventClass.name = true
  table : Identifier.isPlain eventClass.table = true
  timeColumn : Identifier.isPlain eventClass.timeColumn = true
  attributes : ∀ found ∈ eventClass.attributes,
    Identifier.isPlain found.name = true ∧ Identifier.isPlain found.generator = true
  stored : ∀ name ∈ eventClass.stored, Identifier.isPlain name = true
  retrieved : ∀ decoding ∈ eventClass.retrieved, Identifier.isPlain decoding.name = true

/-- The lines of a class from its class line up to its constants. -/
def openingOf (eventClass : EventClass) : List Text :=
  [("class " : Text) ++ eventClass.name ++ "(Event):",
    ("    \"\"\"Event type " : Text) ++ Literal.ofText eventClass.table ++
      labelPart eventClass.label ++ ".\"\"\"", []]

/-- The lines of a class from its class line on. -/
def bodyLines (eventClass : EventClass) : List Text :=
  openingOf eventClass ++ (constantLines eventClass ++ ([] :: (attributeLines eventClass ++
    ([] :: (newRandomLines eventClass ++ ([] :: (storeLines eventClass ++
      ([] :: retrieveLines eventClass))))))))

theorem classLines_eq (eventClass : EventClass) :
    classLines eventClass = [] :: [] :: ("@dataclass" : Text) :: bodyLines eventClass := by
  simp [classLines, bodyLines, openingOf]

section Constants

variable (eventClass : EventClass) (lines : List Text)

/-- The lines of a class up to the constant with a number. -/
def upTo (number : Nat) (eventClass : EventClass) : List Text :=
  openingOf eventClass ++ (constantLines eventClass).take number

/-- What each constant of a class begins with, in the order of the constants. -/
def constantLeads : List Text :=
  ["    TABLE = ", "    TIME_COLUMN = ", "    COLUMNS = ", "    COLUMN_DEFS = ", "    WIDTHS = ",
    "    INSERT_SQL = ", "    SELECT_SQL = "]

/-- No line in front of a constant begins as the constant does. -/
theorem upTo_apart (number : Nat) (lead : Text) (found : constantLeads[number]? = some lead) :
    ((upTo number eventClass).all fun line => (Text.dropLead? line lead).isNone) = true := by
  have bounded : number < 7 := (List.getElem?_eq_some_iff.mp found).1
  rw [constantLeads] at found
  rw [upTo, openingOf, constantLines]
  interval_cases number <;>
  · cases found
    repeat rw [Text.ofString_ofList]
    rfl

theorem name_read :
    inside? "class " "(Event):" (openingOf eventClass ++ (constantLines eventClass ++ lines)) =
      some eventClass.name :=
  inside?_found "class " "(Event):" [] eventClass.name _ rfl

theorem label_read :
    inside? (("    \"\"\"Event type " : Text) ++ Literal.ofText eventClass.table) ".\"\"\""
        (openingOf eventClass ++ (constantLines eventClass ++ lines)) =
      some (labelPart eventClass.label) :=
  inside?_found _ ".\"\"\"" [("class " : Text) ++ eventClass.name ++ "(Event):"]
    (labelPart eventClass.label) _ rfl

theorem table_read :
    after? "    TABLE = " (openingOf eventClass ++ (constantLines eventClass ++ lines)) =
      some (Literal.ofText eventClass.table) :=
  after?_found _ (upTo 0 eventClass) _ _ (upTo_apart eventClass 0 _ rfl)

theorem timeColumn_read :
    after? "    TIME_COLUMN = " (openingOf eventClass ++ (constantLines eventClass ++ lines)) =
      some (Literal.ofText eventClass.timeColumn) :=
  after?_found _ (upTo 1 eventClass) _ _ (upTo_apart eventClass 1 _ rfl)

theorem columns_read :
    after? "    COLUMNS = " (openingOf eventClass ++ (constantLines eventClass ++ lines)) =
      some (tuple (eventClass.columns.map Literal.ofText)) :=
  after?_found _ (upTo 2 eventClass) _ _ (upTo_apart eventClass 2 _ rfl)

theorem columnDefinitions_read :
    after? "    COLUMN_DEFS = " (openingOf eventClass ++ (constantLines eventClass ++ lines)) =
      some (tuple (eventClass.columnDefinitions.map pairText)) :=
  after?_found _ (upTo 3 eventClass) _ _ (upTo_apart eventClass 3 _ rfl)

theorem widths_read :
    after? "    WIDTHS = " (openingOf eventClass ++ (constantLines eventClass ++ lines)) =
      some (tuple (eventClass.widths.map Text.ofNat)) :=
  after?_found _ (upTo 4 eventClass) _ _ (upTo_apart eventClass 4 _ rfl)

theorem insertStatement_read :
    after? "    INSERT_SQL = " (openingOf eventClass ++ (constantLines eventClass ++ lines)) =
      some (Literal.ofText eventClass.insertStatement) :=
  after?_found _ (upTo 5 eventClass) _ _ (upTo_apart eventClass 5 _ rfl)

theorem selectStatement_read :
    after? "    SELECT_SQL = " (openingOf eventClass ++ (constantLines eventClass ++ lines)) =
      some (Literal.ofText eventClass.selectStatement) :=
  after?_found _ (upTo 6 eventClass) _ _ (upTo_apart eventClass 6 _ rfl)

end Constants

theorem between?_labelPart (label : Text) :
    (between? " (" ")" (labelPart label)).getD [] = label := by
  unfold labelPart
  split
  · rename_i empty
    rw [List.isEmpty_iff.mp empty]
    decide
  · rw [between?_parts " (" label ")", Option.getD_some]

/-- A plain name begins with nothing but a letter or an underscore. -/
theorem dropLead?_of_isPlain (front name rest : Text) (plain : Identifier.isPlain name = true)
    (point : CodePoint) (other : Identifier.isFirst point = false) (lead : Text) :
    Text.dropLead? (front ++ name ++ rest) (front ++ point :: lead) = none := by
  cases name with
  | nil => simp [Identifier.isPlain] at plain
  | cons first name =>
      simp only [Identifier.isPlain, Bool.and_eq_true] at plain
      have apart : first ≠ point := by
        rintro rfl
        rw [plain.1] at other
        cases other
      rw [List.append_assoc, Text.dropLead?_append_append, List.cons_append, Text.dropLead?,
        if_neg apart]

theorem assignment?_eq (name value : Text) (plain : Identifier.isPlain name = true) :
    assignment? (name ++ CodePoint.ofChar '=' :: value) = some (name, value) := by
  have absent := Identifier.not_mem_of_isPlain name plain '=' (by decide)
  have taken : (name ++ CodePoint.ofChar '=' :: value).takeWhile
      (fun point => decide (point ≠ CodePoint.ofChar '=')) = name := by
    rw [List.takeWhile_append_of_pos]
    · simp
    · intro point member
      exact decide_eq_true fun same => absent (by rwa [← same])
  simp only [assignment?]
  rw [taken, List.drop_left]

/-- Lines that declare no attribute and read or make no value. -/
def isAside (line : Text) : Bool :=
  (Text.dropLead? line "    # ").isNone &&
    ((between? "            " "(rng)," line).bind assignment?).isNone && (decoding? line).isNone

theorem remarks_skip (line : Text) (lines : List Text)
    (absent : Text.dropLead? line "    # " = none) : remarks (line :: lines) = remarks lines := by
  cases lines with
  | nil => rfl
  | cons next lines => rw [remarks, absent]

theorem remarks_append (front lines : List Text)
    (absent : ∀ line ∈ front, Text.dropLead? line "    # " = none) :
    remarks (front ++ lines) = remarks lines := by
  induction front with
  | nil => rfl
  | cons line front ih =>
      rw [List.cons_append, remarks_skip line _ (absent line (by simp)),
        ih fun other member => absent other (by simp [member])]

theorem remarks_attributeLines (eventClass : EventClass) (lines : List Text) :
    remarks (attributeLines eventClass ++ lines) =
      (eventClass.attributes.map fun found => (found.name, found.comment)) ++ remarks lines := by
  unfold attributeLines
  induction eventClass.attributes with
  | nil => rfl
  | cons found attributes ih =>
      have named := between?_parts "    " found.name ": int = 0"
      simp only [List.flatMap_cons, List.cons_append, List.nil_append, remarks,
        Text.dropLead?_append, named, ih, List.map_cons]

/-- The values that lines make, with the attributes they are for. -/
theorem generated_eq (lines : List Text) :
    generated lines =
      lines.filterMap fun line => (between? "            " "(rng)," line).bind assignment? := by
  rw [generated, List.filterMap_filterMap]

theorem generated_append (first second : List Text) :
    generated (first ++ second) = generated first ++ generated second := by
  simp [generated]

theorem aside_iff (line : Text) :
    isAside line = true ↔ Text.dropLead? line "    # " = none ∧
      (between? "            " "(rng)," line).bind assignment? = none ∧ decoding? line = none := by
  simp [isAside, and_assoc]

/-- The line of a value that is read back is indented by more than the line of one that is made. -/
theorem deepIndent_eq : ("                    " : Text) =
    ("            " : Text) ++ CodePoint.ofChar ' ' :: ("       " : Text) := by
  repeat rw [Text.ofString_ofList]
  rfl

theorem bindingLead_eq : ("                bind_positional(" : Text) =
    ("            " : Text) ++ CodePoint.ofChar ' ' :: ("   bind_positional(" : Text) := by
  repeat rw [Text.ofString_ofList]
  rfl

theorem making_of_dropLead? (line : Text) (indented : Text.dropLead? line "            " = none) :
    (between? "            " "(rng)," line).bind assignment? = none ∧ decoding? line = none := by
  have deep : Text.dropLead? line "                    " = none := by
    rw [deepIndent_eq]
    exact Text.dropLead?_append_eq_none line _ _ indented
  constructor
  · rw [between?_eq_none _ _ _ indented, Option.bind_none]
  · simp [decoding?, between?_eq_none _ _ _ deep]

theorem generated_of_aside (lines : List Text) (aside : lines.all isAside = true) :
    generated lines = [] := by
  rw [generated_eq, List.filterMap_eq_nil_iff]
  intro line member
  exact ((aside_iff line).mp (List.all_eq_true.mp aside line member)).2.1

theorem decodings_of_aside (lines : List Text) (aside : lines.all isAside = true) :
    lines.filterMap decoding? = [] := by
  rw [List.filterMap_eq_nil_iff]
  intro line member
  exact ((aside_iff line).mp (List.all_eq_true.mp aside line member)).2.2

theorem remarks_of_aside (lines : List Text) (aside : lines.all isAside = true) :
    remarks lines = [] := by
  rw [← List.append_nil lines, remarks_append]
  · rfl
  · intro line member
    exact ((aside_iff line).mp (List.all_eq_true.mp aside line member)).1

/-- The lines of a class in front of its attributes. -/
def frontLines (eventClass : EventClass) : List Text :=
  openingOf eventClass ++ (constantLines eventClass ++ [[]])

/-- The lines of a class between its attributes and the values that it makes for them. -/
def makingLines (eventClass : EventClass) : List Text :=
  [[], ("    @classmethod" : Text),
    ("    def new_random(cls, rng: random.Random) -> " : Text) ++ eventClass.name ++ ":",
    ("        \"\"\"Generate a new random " : Text) ++ eventClass.name ++ ".\"\"\"",
    "        return cls("]

/-- The lines of a class that make the values of its attributes. -/
def generatorLines (eventClass : EventClass) : List Text :=
  eventClass.attributes.map fun found =>
    ("            " : Text) ++ found.name ++ "=" ++ found.generator ++ "(rng),"

/-- The lines behind the values up to the call that stores. -/
def storingLines (eventClass : EventClass) : List Text :=
  [("        )" : Text), [], "    async def store(self, conn: sqlite3.Connection) -> None:",
    ("        \"\"\"Insert this event into the " : Text) ++ eventClass.table ++ " table.\"\"\"",
    "        try:"]

/-- The call that stores. -/
def callLines : List Text := [("            conn.execute(" : Text), "                self.INSERT_SQL,"]

/-- The line that binds the stored attributes. -/
def bindingLine (eventClass : EventClass) : Text :=
  ("                bind_positional(" : Text) ++
    Text.join ", " (eventClass.stored.map fun name => ("self." : Text) ++ name) ++ "),"

/-- The lines behind the binding up to the class that reading back gives. -/
def storedLines : List Text :=
  ("            )" : Text) :: (storeEnd ++ [[], ("    @classmethod" : Text),
    "    async def retrieve(", "        cls, conn: sqlite3.Connection, start: int, end: int"])

/-- The class that reading back gives, with its description. -/
def queryLines (eventClass : EventClass) : List Text :=
  [("    ) -> list[" : Text) ++ eventClass.name ++ "]:",
    ("        \"\"\"Query " : Text) ++ eventClass.table ++ " events with " ++
      eventClass.timeColumn ++ " between start and end, inclusive.\"\"\""]

/-- The lines up to the first attribute that is read back. -/
def rowLines : List Text :=
  [("        try:" : Text),
    "            rows = conn.execute(cls.SELECT_SQL, bind_positional(start, end)).fetchall()",
    "            return [", "                cls("]

theorem bodyLines_eq (eventClass : EventClass) (lines : List Text) :
    bodyLines eventClass ++ lines =
      frontLines eventClass ++ (attributeLines eventClass ++ (makingLines eventClass ++
        (generatorLines eventClass ++ (storingLines eventClass ++ (callLines ++
          (bindingLine eventClass :: (storedLines ++ (queryLines eventClass ++ (rowLines ++
            (decodingLines 0 eventClass.retrieved ++ (retrieveEnd ++ lines))))))))))) := by
  simp only [bodyLines, frontLines, makingLines, generatorLines, storingLines, callLines,
    bindingLine, storedLines, queryLines, rowLines, newRandomLines, storeLines, retrieveLines,
    List.append_assoc, List.cons_append, List.nil_append]

/-- Lines that are indented by less than twelve blanks and hold no remark. -/
theorem all_aside (lines : List Text)
    (near : (lines.all fun line => (Text.dropLead? line "    # ").isNone &&
      (Text.dropLead? line "            ").isNone) = true) : lines.all isAside = true := by
  rw [List.all_eq_true] at near ⊢
  intro line member
  have parts := near line member
  rw [Bool.and_eq_true, Option.isNone_iff_eq_none, Option.isNone_iff_eq_none] at parts
  exact (aside_iff line).mpr ⟨parts.1, making_of_dropLead? line parts.2⟩

/-- Whether a line begins otherwise than a mark does, and otherwise than what a remark or a class line
goes on with behind a name. -/
def isUnmarked (line : Text) : Bool :=
  line.head? ≠ some (CodePoint.ofChar '@') && !line.startsWith " w" && !line.startsWith "Event("

/-- Whether a line is indented by less than twelve blanks, holds no remark and is unmarked. -/
def isNear (line : Text) : Bool :=
  (Text.dropLead? line "    # ").isNone && (Text.dropLead? line "            ").isNone &&
    isUnmarked line

theorem front_near (eventClass : EventClass) : (frontLines eventClass).all isNear = true := by
  rw [frontLines, openingOf, constantLines]
  repeat rw [Text.ofString_ofList]
  rfl

theorem making_near (eventClass : EventClass) : (makingLines eventClass).all isNear = true := by
  rw [makingLines]
  repeat rw [Text.ofString_ofList]
  rfl

theorem storing_near (eventClass : EventClass) : (storingLines eventClass).all isNear = true := by
  rw [storingLines]
  repeat rw [Text.ofString_ofList]
  rfl

theorem query_near (eventClass : EventClass) : (queryLines eventClass).all isNear = true := by
  rw [queryLines]
  repeat rw [Text.ofString_ofList]
  rfl

theorem aside_of_near (lines : List Text) (near : lines.all isNear = true) :
    lines.all isAside = true := by
  apply all_aside
  rw [List.all_eq_true] at near ⊢
  intro line member
  have parts := near line member
  rw [isNear, Bool.and_eq_true] at parts
  exact parts.1

theorem unmarked_of_near (lines : List Text) (near : lines.all isNear = true) :
    lines.all isUnmarked = true := by
  rw [List.all_eq_true] at near ⊢
  intro line member
  have parts := near line member
  rw [isNear, Bool.and_eq_true] at parts
  exact parts.2

/-- Whether a code point can be printed in ASCII. -/
def isPrintable (point : CodePoint) : Bool := 0x20 ≤ point.val && point.val < 0x7F

/-- Lines of every module that the reader of a class passes. -/
def isFixed (line : Text) : Bool := isAside line && isUnmarked line && line.all isPrintable

theorem callLines_fixed : callLines.all isFixed = true := by
  rw [callLines]
  repeat rw [Text.ofString_ofList]
  rfl

theorem storedLines_fixed : storedLines.all isFixed = true := by
  rw [storedLines, storeEnd]
  simp only [List.map_cons, List.map_nil]
  repeat rw [Text.ofString_ofList]
  rfl

theorem rowLines_fixed : rowLines.all isFixed = true := by
  rw [rowLines]
  repeat rw [Text.ofString_ofList]
  rfl

theorem retrieveEnd_fixed : retrieveEnd.all isFixed = true := by
  rw [retrieveEnd]
  simp only [List.map_cons, List.map_nil]
  repeat rw [Text.ofString_ofList]
  rfl

theorem aside_of_fixed (lines : List Text) (fixed : lines.all isFixed = true) :
    lines.all isAside = true := by
  rw [List.all_eq_true] at fixed ⊢
  intro line member
  have parts := fixed line member
  simp only [isFixed, Bool.and_eq_true] at parts
  exact parts.1.1

theorem unmarked_of_fixed (lines : List Text) (fixed : lines.all isFixed = true) :
    lines.all isUnmarked = true := by
  rw [List.all_eq_true] at fixed ⊢
  intro line member
  have parts := fixed line member
  simp only [isFixed, Bool.and_eq_true] at parts
  exact parts.1.2

theorem attributeLines_near (eventClass : EventClass) (plain : IsPlainClass eventClass) :
    ∀ line ∈ attributeLines eventClass, Text.dropLead? line "            " = none := by
  intro line member
  obtain ⟨found, foundMember, lineMember⟩ := List.mem_flatMap.mp member
  rcases List.mem_cons.mp lineMember with rfl | lineMember
  · rfl
  · rw [List.mem_singleton.mp lineMember]
    exact dropLead?_of_isPlain "    " found.name ": int = 0"
      (plain.attributes found foundMember).1 ' ' (by decide) "       "

theorem making_attributeLines (eventClass : EventClass) (plain : IsPlainClass eventClass) :
    generated (attributeLines eventClass) = [] ∧
      (attributeLines eventClass).filterMap decoding? = [] := by
  have every : ∀ line ∈ attributeLines eventClass,
      (between? "            " "(rng)," line).bind assignment? = none ∧ decoding? line = none :=
    fun line member =>
      making_of_dropLead? line (attributeLines_near eventClass plain line member)
  constructor
  · rw [generated_eq, List.filterMap_eq_nil_iff]
    exact fun line member => (every line member).1
  · rw [List.filterMap_eq_nil_iff]
    exact fun line member => (every line member).2

theorem generated_generatorLines (eventClass : EventClass) (plain : IsPlainClass eventClass) :
    generated (generatorLines eventClass) =
      eventClass.attributes.map fun found => (found.name, found.generator) := by
  have every : ∀ found ∈ eventClass.attributes,
      (between? "            " "(rng)," (("            " : Text) ++ found.name ++ "=" ++
        found.generator ++ "(rng),")).bind assignment? = some (found.name, found.generator) := by
    intro found member
    have inner := between?_parts "            " (found.name ++ "=" ++ found.generator) "(rng),"
    have read := assignment?_eq found.name found.generator (plain.attributes found member).1
    simp only [List.append_assoc] at inner ⊢
    rw [inner, Option.bind_some, ← read]
    rfl
  rw [generated_eq, generatorLines, List.filterMap_map]
  generalize eventClass.attributes = attributes at every
  induction attributes with
  | nil => rfl
  | cons found attributes ih =>
      rw [List.filterMap_cons, Function.comp_apply, every found (by simp),
        ih fun other member => every other (by simp [member]), List.map_cons]

theorem decodings_generatorLines (eventClass : EventClass) (plain : IsPlainClass eventClass) :
    (generatorLines eventClass).filterMap decoding? = [] := by
  rw [List.filterMap_eq_nil_iff]
  intro line member
  obtain ⟨found, foundMember, rfl⟩ := List.mem_map.mp member
  have named := dropLead?_of_isPlain "            " found.name ("=" ++ found.generator ++ "(rng),")
    (plain.attributes found foundMember).1 ' ' (by decide) "       "
  rw [← deepIndent_eq] at named
  simp only [List.append_assoc] at named ⊢
  simp only [decoding?]
  rw [between?_eq_none _ _ _ named]
  rfl

theorem eq_of_between? (lead tail text inner : Text) (found : between? lead tail text = some inner) :
    text = lead ++ inner ++ tail := by
  unfold between? at found
  cases dropped : Text.dropLead? text lead with
  | none => simp [dropped] at found
  | some rest =>
      cases back : Text.dropLead? rest.reverse tail.reverse with
      | none => simp [dropped, back] at found
      | some kept =>
          have inside : kept.reverse = inner := by simpa [dropped, back] using found
          have turned := (Text.dropLead?_eq_some_iff _ _ _).mp back
          have whole : rest = kept.reverse ++ tail := by
            rw [← List.reverse_reverse rest, turned, List.reverse_append, List.reverse_reverse]
          rw [(Text.dropLead?_eq_some_iff _ _ _).mp dropped, whole, inside, List.append_assoc]

theorem assignment?_of_not_mem (line : Text) (absent : CodePoint.ofChar '=' ∉ line) :
    assignment? line = none := by
  have taken : line.takeWhile (fun point => decide (point ≠ CodePoint.ofChar '=')) = line := by
    rw [← List.append_nil line, List.takeWhile_append_of_pos, List.takeWhile_nil]
    intro point member
    exact decide_eq_true fun same => absent (by rwa [← same])
  simp only [assignment?]
  rw [taken, List.drop_length]

theorem not_mem_join (separator : Text) (pieces : List Text) (point : CodePoint)
    (apart : point ∉ separator) (absent : ∀ piece ∈ pieces, point ∉ piece) :
    point ∉ Text.join separator pieces := by
  induction pieces with
  | nil => simp
  | cons piece pieces ih =>
      have here := absent piece (by simp)
      cases pieces with
      | nil => exact here
      | cons next pieces =>
          have others := ih fun other member => absent other (by simp [member])
          rw [Text.join_cons_cons, List.mem_append, List.mem_append]
          rintro ((own | between) | later)
          · exact here own
          · exact apart between
          · exact others later

/-- The names that the binding lists. -/
def boundText (eventClass : EventClass) : Text :=
  Text.join ", " (eventClass.stored.map fun name => ("self." : Text) ++ name)

theorem stored_pieces (eventClass : EventClass) (plain : IsPlainClass eventClass)
    (point : CodePoint) (apart : point ∉ ("self." : Text))
    (other : Identifier.isLater point = false) :
    ∀ piece ∈ eventClass.stored.map fun name => ("self." : Text) ++ name, point ∉ piece := by
  intro piece member
  obtain ⟨name, nameMember, rfl⟩ := List.mem_map.mp member
  rw [List.mem_append]
  rintro (front | own)
  · exact apart front
  · exact Identifier.not_mem_of_isPlain name (plain.stored name nameMember) point other own

theorem binding_aside (eventClass : EventClass) (plain : IsPlainClass eventClass) :
    isAside (bindingLine eventClass) = true := by
  have noSign : CodePoint.ofChar '=' ∉ bindingLine eventClass := by
    have inner := not_mem_join ", " _ (CodePoint.ofChar '=') (by decide)
      (stored_pieces eventClass plain '=' (by decide) (by decide))
    have front : CodePoint.ofChar '=' ∉ ("                bind_positional(" : Text) := by
      rw [Text.ofString_ofList]
      decide
    have back : CodePoint.ofChar '=' ∉ ("),": Text) := by decide
    simp only [bindingLine, List.mem_append, not_or]
    exact ⟨⟨front, inner⟩, back⟩
  rw [aside_iff]
  refine ⟨rfl, ?_, ?_⟩
  · cases found : between? "            " "(rng)," (bindingLine eventClass) with
    | none => rfl
    | some inner =>
        rw [Option.bind_some]
        apply assignment?_of_not_mem
        intro member
        apply noSign
        rw [eq_of_between? _ _ _ _ found]
        simp [member]
  · simp only [decoding?]
    rw [between?_eq_none _ _ (bindingLine eventClass) rfl]
    rfl

theorem splitPair_row (index width : Nat) :
    Text.splitPair ',' ' ' (Text.ofNat index ++ "], " ++ Text.ofNat width) =
      [Text.ofNat index ++ "]", Text.ofNat width] := by
  have front : CodePoint.ofChar ',' ∉ Text.ofNat index ++ ("]" : Text) := by
    rw [List.mem_append, not_or]
    exact ⟨Text.not_mem_ofNat index ',' (by decide), by decide⟩
  have split := Text.splitPair_append ',' ' ' (by decide) (Text.ofNat index ++ ("]" : Text))
    (Text.ofNat width) (Text.splitPair_of_not_mem _ _ _ front)
  rw [Text.splitPair_of_not_mem ',' ' ' (Text.ofNat width)
    (Text.not_mem_ofNat width ',' (by decide))] at split
  rw [← split]
  simp only [List.append_assoc]
  rfl

/-- How a decoding is written behind its name. -/
def rowText (index width : Nat) : Text :=
  ("coerce_nullable(row[" : Text) ++ (Text.ofNat index ++ "], " ++ Text.ofNat width)

theorem decoding?_line (index : Nat) (decoding : Decoding)
    (plain : Identifier.isPlain decoding.name = true) :
    decoding? (("                    " : Text) ++ decoding.name ++ "=coerce_nullable(row[" ++
      Text.ofNat index ++ "], " ++ Text.ofNat decoding.width ++ "),") = some decoding := by
  have inner := between?_parts "                    "
    (decoding.name ++ CodePoint.ofChar '=' :: rowText index decoding.width) "),"
  have read := assignment?_eq decoding.name (rowText index decoding.width) plain
  have line : ("                    " : Text) ++ decoding.name ++ "=coerce_nullable(row[" ++
      Text.ofNat index ++ "], " ++ Text.ofNat decoding.width ++ ")," =
      ("                    " : Text) ++
        (decoding.name ++ CodePoint.ofChar '=' :: rowText index decoding.width) ++ ")," := by
    have sign : ("=coerce_nullable(row[" : Text) =
        CodePoint.ofChar '=' :: ("coerce_nullable(row[" : Text) := by
      rw [Text.ofString_ofList, Text.ofString_ofList]
      rfl
    simp only [List.append_assoc, rowText, sign, List.cons_append]
  simp only [decoding?]
  rw [line, inner]
  simp only [Option.bind_eq_bind, Option.bind_some, read]
  simp only [rowText, Text.dropLead?_append, Option.bind_some, splitPair_row, List.head?_cons,
    List.getElem?_cons_succ, List.getElem?_cons_zero, Option.map_some, natural?_ofNat]
  rfl

theorem decodings_decodingLines (index : Nat) (decodings : List Decoding)
    (plain : ∀ decoding ∈ decodings, Identifier.isPlain decoding.name = true) :
    (decodingLines index decodings).filterMap decoding? = decodings := by
  induction decodings generalizing index with
  | nil => rfl
  | cons decoding decodings ih =>
      rw [decodingLines, List.filterMap_cons,
        decoding?_line index decoding (plain decoding (by simp)),
        ih (index + 1) fun other member => plain other (by simp [member])]

theorem generated_decodingLines (index : Nat) (decodings : List Decoding) :
    generated (decodingLines index decodings) = [] := by
  induction decodings generalizing index with
  | nil => rfl
  | cons decoding decodings ih =>
      have ends : between? "            " "(rng)," (("                    " : Text) ++
          decoding.name ++ "=coerce_nullable(row[" ++ Text.ofNat index ++ "], " ++
          Text.ofNat decoding.width ++ "),") = none := by
        apply between?_eq_none_of_end
        obtain ⟨digits, last, shape⟩ := List.eq_nil_or_concat (Text.ofNat decoding.width) |>.resolve_left
          (Text.ofNat_ne_nil decoding.width)
        have digit := Text.isAsciiDigit_of_mem_ofNat decoding.width last (by simp [shape])
        have apart : last ≠ CodePoint.ofChar 'g' := by
          rintro rfl
          exact absurd digit (by decide)
        rw [shape]
        simp only [List.reverse_append, List.concat_eq_append, List.reverse_cons, List.reverse_nil,
          List.nil_append, List.append_assoc]
        have back : ("),": Text).reverse = [CodePoint.ofChar ',', CodePoint.ofChar ')'] := rfl
        have wanted : ("(rng),": Text).reverse =
            CodePoint.ofChar ',' :: CodePoint.ofChar ')' :: CodePoint.ofChar 'g' ::
              ("(rn" : Text).reverse := rfl
        rw [back, wanted, List.cons_append, List.cons_append, Text.dropLead?_cons_self,
          Text.dropLead?_cons_self, List.nil_append, List.cons_append, Text.dropLead?,
          if_neg apart]
      rw [decodingLines, generated_eq, List.filterMap_cons, ends, Option.bind_none, ← generated_eq]
      exact ih (index + 1)

theorem remarks_decodingLines (index : Nat) (decodings : List Decoding) (lines : List Text) :
    remarks (decodingLines index decodings ++ lines) = remarks lines := by
  induction decodings generalizing index with
  | nil => rfl
  | cons decoding decodings ih =>
      rw [decodingLines, List.cons_append, remarks_skip _ _ rfl]
      exact ih (index + 1)

variable (eventClass : EventClass) (lines : List Text)

/-- The lines of a class around its attributes, its stored attributes and what it reads back. -/
structure HasAsideFrame (eventClass : EventClass) : Prop where
  front : (frontLines eventClass).all isAside = true
  making : (makingLines eventClass).all isAside = true
  storing : (storingLines eventClass).all isAside = true
  call : callLines.all isAside = true
  stored : storedLines.all isAside = true
  query : (queryLines eventClass).all isAside = true
  row : rowLines.all isAside = true
  ending : retrieveEnd.all isAside = true

theorem hasAsideFrame : HasAsideFrame eventClass where
  front := aside_of_near _ (front_near eventClass)
  making := aside_of_near _ (making_near eventClass)
  storing := aside_of_near _ (storing_near eventClass)
  call := aside_of_fixed _ callLines_fixed
  stored := aside_of_fixed _ storedLines_fixed
  query := aside_of_near _ (query_near eventClass)
  row := aside_of_fixed _ rowLines_fixed
  ending := aside_of_fixed _ retrieveEnd_fixed

theorem remarks_read (aside : lines.all isAside = true) (plain : IsPlainClass eventClass) :
    remarks (bodyLines eventClass ++ lines) =
      eventClass.attributes.map fun found => (found.name, found.comment) := by
  have pass : ∀ front : List Text, front.all isAside = true → ∀ rest,
      remarks (front ++ rest) = remarks rest := by
    intro front frontAside rest
    apply remarks_append
    intro line member
    exact ((aside_iff line).mp (List.all_eq_true.mp frontAside line member)).1
  have generators : ∀ rest, remarks (generatorLines eventClass ++ rest) = remarks rest := by
    intro rest
    apply remarks_append
    intro line member
    obtain ⟨found, _, rfl⟩ := List.mem_map.mp member
    rfl
  have binding := ((aside_iff _).mp (binding_aside eventClass plain)).1
  have frame := hasAsideFrame eventClass
  rw [bodyLines_eq, pass _ frame.front, remarks_attributeLines, pass _ frame.making, generators,
    pass _ frame.storing, pass _ frame.call, remarks_skip _ _ binding, pass _ frame.stored,
    pass _ frame.query, pass _ frame.row, remarks_decodingLines, pass _ frame.ending,
    remarks_of_aside lines aside, List.append_nil]

theorem generated_read (aside : lines.all isAside = true) (plain : IsPlainClass eventClass) :
    generated (bodyLines eventClass ++ lines) =
      eventClass.attributes.map fun found => (found.name, found.generator) := by
  have binding : generated [bindingLine eventClass] = [] :=
    generated_of_aside _ (by simpa using binding_aside eventClass plain)
  have frame := hasAsideFrame eventClass
  rw [bodyLines_eq, ← List.singleton_append (x := bindingLine eventClass)]
  simp only [generated_append, generated_of_aside _ frame.front,
    (making_attributeLines eventClass plain).1, generated_of_aside _ frame.making,
    generated_generatorLines eventClass plain, generated_of_aside _ frame.storing,
    generated_of_aside _ frame.call, binding, generated_of_aside _ frame.stored,
    generated_of_aside _ frame.query, generated_of_aside _ frame.row, generated_decodingLines,
    generated_of_aside _ frame.ending, generated_of_aside lines aside, List.nil_append,
    List.append_nil]

theorem decodings_read (aside : lines.all isAside = true) (plain : IsPlainClass eventClass) :
    (bodyLines eventClass ++ lines).filterMap decoding? = eventClass.retrieved := by
  have binding : [bindingLine eventClass].filterMap decoding? = [] :=
    decodings_of_aside _ (by simpa using binding_aside eventClass plain)
  have frame := hasAsideFrame eventClass
  rw [bodyLines_eq, ← List.singleton_append (x := bindingLine eventClass)]
  simp only [List.filterMap_append, decodings_of_aside _ frame.front,
    (making_attributeLines eventClass plain).2, decodings_of_aside _ frame.making,
    decodings_generatorLines eventClass plain, decodings_of_aside _ frame.storing,
    decodings_of_aside _ frame.call, binding, decodings_of_aside _ frame.stored,
    decodings_of_aside _ frame.query, decodings_of_aside _ frame.row,
    decodings_decodingLines 0 _ plain.retrieved, decodings_of_aside _ frame.ending,
    decodings_of_aside lines aside, List.nil_append, List.append_nil]

theorem callLines_unbound : ∀ line ∈ callLines,
    Text.dropLead? line "                bind_positional(" = none := by
  rw [callLines]
  repeat rw [Text.ofString_ofList]
  decide

theorem bound_read (plain : IsPlainClass eventClass) :
    inside? "                bind_positional(" ")," (bodyLines eventClass ++ lines) =
      some (boundText eventClass) := by
  have indented : ∀ line, Text.dropLead? line "            " = none →
      Text.dropLead? line "                bind_positional(" = none := by
    intro line absent
    rw [bindingLead_eq]
    exact Text.dropLead?_append_eq_none line _ _ absent
  have near : ∀ front : List Text, front.all isNear = true → ∀ rest,
      inside? "                bind_positional(" ")," (front ++ rest) =
        inside? "                bind_positional(" ")," rest := by
    intro front frontNear rest
    apply inside?_append
    intro line member
    have parts := List.all_eq_true.mp frontNear line member
    simp only [isNear, Bool.and_eq_true, Option.isNone_iff_eq_none] at parts
    exact indented line parts.1.2
  have attributes : ∀ line ∈ attributeLines eventClass,
      Text.dropLead? line "                bind_positional(" = none :=
    fun line member => indented line (attributeLines_near eventClass plain line member)
  have generators : ∀ line ∈ generatorLines eventClass,
      Text.dropLead? line "                bind_positional(" = none := by
    intro line member
    obtain ⟨found, foundMember, rfl⟩ := List.mem_map.mp member
    have named := dropLead?_of_isPlain "            " found.name
      ("=" ++ found.generator ++ "(rng),") (plain.attributes found foundMember).1 ' ' (by decide)
      "   bind_positional("
    rw [← bindingLead_eq] at named
    simp only [List.append_assoc] at named ⊢
    exact named
  rw [bodyLines_eq, near _ (front_near eventClass), inside?_append _ _ _ _ attributes,
    near _ (making_near eventClass), inside?_append _ _ _ _ generators,
    near _ (storing_near eventClass), inside?_append _ _ _ _ callLines_unbound]
  exact inside?_self _ _ _ _

theorem mapM_self (names : List Text) :
    (names.map fun name => ("self." : Text) ++ name).mapM (fun piece =>
      Text.dropLead? piece "self.") = some names := by
  induction names with
  | nil => rfl
  | cons name names ih => simp [ih]

/-- The stored attributes read back from the binding. -/
theorem stored_read (plain : IsPlainClass eventClass) :
    (listed (boundText eventClass)).mapM (fun piece => Text.dropLead? piece "self.") =
      some eventClass.stored := by
  rw [boundText, listed_join, mapM_self]
  intro piece member
  refine ⟨?_, stored_pieces eventClass plain ',' (by decide) (by decide) piece member⟩
  obtain ⟨name, _, rfl⟩ := List.mem_map.mp member
  exact List.cons_ne_nil _ _

/-- The lines of a class with plain names read back as the class. -/
theorem class?_bodyLines (aside : lines.all isAside = true) (plain : IsPlainClass eventClass) :
    class? (bodyLines eventClass ++ lines) = some eventClass := by
  obtain ⟨rest, shape⟩ : ∃ rest, bodyLines eventClass ++ lines =
      openingOf eventClass ++ (constantLines eventClass ++ rest) := by
    rw [bodyLines, List.append_assoc, List.append_assoc]
    exact ⟨_, rfl⟩
  have attributes : (eventClass.attributes.map fun found => (found.name, found.comment)).zip
      (eventClass.attributes.map fun found => (found.name, found.generator)) =
      eventClass.attributes.map fun found =>
        ((found.name, found.comment), (found.name, found.generator)) := by
    rw [List.zip_map']
  have bound := bound_read eventClass lines plain
  have remarked := remarks_read eventClass lines aside plain
  have made := generated_read eventClass lines aside plain
  have decoded := decodings_read eventClass lines aside plain
  simp only [class?, remarked, made, decoded, attributes]
  rw [bound, shape, name_read, table_read, timeColumn_read, columns_read, columnDefinitions_read,
    widths_read, insertStatement_read, selectStatement_read]
  simp only [Option.bind_eq_bind, Option.bind_some, Literal.value?_ofText, label_read,
    tupleValues?_tuple, tuplePairs?_tuple, tupleNumbers?_tuple, stored_read eventClass plain,
    between?_labelPart, List.map_map, Function.comp_def]
  simp

end ModuleText

end EventForge
