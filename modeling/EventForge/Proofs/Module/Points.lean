import EventForge.Proofs.Module.ModuleReading

/-!
# The code points of a module

Whatever holds of printable ASCII and of the texts that a module takes over holds of every code point
in its lines.
-/

namespace EventForge

/-- Whether something holds of all code points of a text. -/
def Text.Allows (allowed : CodePoint → Prop) (text : Text) : Prop := ∀ point ∈ text, allowed point

namespace Text

variable {allowed : CodePoint → Prop}

theorem allows_append (first second : Text) :
    Allows allowed (first ++ second) ↔ Allows allowed first ∧ Allows allowed second :=
  List.forall_mem_append

theorem allows_join (separator : Text) (pieces : List Text) (between : Allows allowed separator)
    (every : ∀ piece ∈ pieces, Allows allowed piece) : Allows allowed (join separator pieces) := by
  induction pieces with
  | nil => simp [Allows]
  | cons piece pieces ih =>
      cases pieces with
      | nil => exact every piece (by simp)
      | cons next pieces =>
          have others := ih fun other member => every other (by simp [member])
          rw [join_cons_cons, allows_append, allows_append]
          exact ⟨⟨every piece (by simp), between⟩, others⟩

end Text

namespace ModuleText

open Text

/-- What a class lets into its lines beside printable ASCII. -/
structure AdmitsClass (allowed : CodePoint → Prop) (eventClass : EventClass) : Prop where
  name : Allows allowed eventClass.name
  label : Allows allowed eventClass.label
  table : Allows allowed eventClass.table
  tableLiteral : Allows allowed (Literal.ofText eventClass.table)
  timeColumn : Allows allowed eventClass.timeColumn
  timeLiteral : Allows allowed (Literal.ofText eventClass.timeColumn)
  columns : ∀ column ∈ eventClass.columns, Allows allowed (Literal.ofText column)
  columnDefinitions : ∀ definition ∈ eventClass.columnDefinitions,
    Allows allowed (Literal.ofText definition.1) ∧ Allows allowed (Literal.ofText definition.2)
  insertStatement : Allows allowed (Literal.ofText eventClass.insertStatement)
  selectStatement : Allows allowed (Literal.ofText eventClass.selectStatement)
  attributes : ∀ found ∈ eventClass.attributes,
    Allows allowed found.name ∧ Allows allowed found.comment ∧ Allows allowed found.generator
  stored : ∀ name ∈ eventClass.stored, Allows allowed name
  retrieved : ∀ decoding ∈ eventClass.retrieved, Allows allowed decoding.name

/-- What a module lets into its lines. -/
structure Admits (allowed : CodePoint → Prop) (module : EventModule) : Prop where
  printable : ∀ point, isPrintable point = true → allowed point
  source : ∀ source, module.source = some source → Allows allowed (Literal.ofText source)
  fingerprint : Allows allowed (Literal.ofText module.fingerprint)
  generators : ∀ generator ∈ module.generators, Allows allowed generator
  classes : ∀ eventClass ∈ module.classes, AdmitsClass allowed eventClass

/-- Whether all that a module writes outside of literals is plain. -/
structure IsPlainModule (module : EventModule) : Prop where
  generators : ∀ generator ∈ module.generators, Identifier.isPlain generator = true
  classes : ∀ eventClass ∈ module.classes, IsPlainClass eventClass

section Lines

variable {allowed : CodePoint → Prop}
  (printable : ∀ point, isPrintable point = true → allowed point)

include printable

theorem allows_printable (text : Text) (closed : text.all isPrintable = true) :
    Allows allowed text :=
  fun point member => printable point (List.all_eq_true.mp closed point member)

theorem allows_ofString (chars : List Char)
    (closed : (chars.map CodePoint.ofChar).all isPrintable = true) :
    Allows allowed (Text.ofString (String.ofList chars)) := by
  rw [Text.ofString_ofList]
  exact allows_printable printable _ closed

theorem allows_plain (name : Text) (plain : Identifier.isPlain name = true) :
    Allows allowed name := by
  intro point member
  apply printable
  have later := (Identifier.isLater_iff point).mp
    (Identifier.isLater_of_isPlain name plain point member)
  simp only [isPrintable, Bool.and_eq_true, decide_eq_true_eq]
  omega

theorem allows_ofNat (number : Nat) : Allows allowed (Text.ofNat number) := by
  intro point member
  apply printable
  have digit := (CodePoint.isAsciiDigit_iff point).mp
    (Text.isAsciiDigit_of_mem_ofNat number point member)
  simp only [isPrintable, Bool.and_eq_true, decide_eq_true_eq]
  omega

theorem allows_fixed (lines : List Text) (fixed : lines.all isFixed = true) :
    ∀ line ∈ lines, Allows allowed line := by
  intro line member
  have parts := List.all_eq_true.mp fixed line member
  simp only [isFixed, Bool.and_eq_true] at parts
  exact allows_printable printable line parts.2

theorem allows_tuple (items : List Text) (every : ∀ item ∈ items, Allows allowed item) :
    Allows allowed (tuple items) := by
  have comma : Allows allowed (", " : Text) := allows_ofString printable _ (by decide)
  have left : Allows allowed ("(" : Text) := allows_ofString printable _ (by decide)
  have right : Allows allowed (")" : Text) := allows_ofString printable _ (by decide)
  have single : Allows allowed (",)" : Text) := allows_ofString printable _ (by decide)
  match items with
  | [] => exact (allows_append _ _).mpr ⟨left, right⟩
  | [item] =>
      rw [tuple, allows_append, allows_append]
      exact ⟨⟨left, every item (by simp)⟩, single⟩
  | first :: second :: others =>
      rw [tuple_cons_cons, allows_append, allows_append]
      exact ⟨left, Text.allows_join _ _ comma every, right⟩

variable (eventClass : EventClass) (admits : AdmitsClass allowed eventClass)

include admits

theorem allows_constants : ∀ line ∈ constantLines eventClass, Allows allowed line := by
  have pairs : Allows allowed (tuple (eventClass.columnDefinitions.map pairText)) := by
    apply allows_tuple printable
    intro piece member
    obtain ⟨definition, definitionMember, rfl⟩ := List.mem_map.mp member
    have both := admits.columnDefinitions definition definitionMember
    simp only [pairText, allows_append]
    exact ⟨⟨⟨⟨allows_ofString printable _ (by decide), both.1⟩,
      allows_ofString printable _ (by decide)⟩, both.2⟩, allows_ofString printable _ (by decide)⟩
  have columns : Allows allowed (tuple (eventClass.columns.map Literal.ofText)) := by
    apply allows_tuple printable
    intro piece member
    obtain ⟨column, columnMember, rfl⟩ := List.mem_map.mp member
    exact admits.columns column columnMember
  have widths : Allows allowed (tuple (eventClass.widths.map Text.ofNat)) := by
    apply allows_tuple printable
    intro piece member
    obtain ⟨width, _, rfl⟩ := List.mem_map.mp member
    exact allows_ofNat printable width
  have behind : ∀ (chars : List Char) (rest : Text),
      (chars.map CodePoint.ofChar).all isPrintable = true → Allows allowed rest →
      Allows allowed (Text.ofString (String.ofList chars) ++ rest) :=
    fun chars rest closed allows =>
      (allows_append _ _).mpr ⟨allows_ofString printable chars closed, allows⟩
  simp only [constantLines, List.forall_mem_cons]
  exact ⟨behind _ _ (by decide) admits.tableLiteral, behind _ _ (by decide) admits.timeLiteral,
    behind _ _ (by decide) columns, behind _ _ (by decide) pairs, behind _ _ (by decide) widths,
    behind _ _ (by decide) admits.insertStatement, behind _ _ (by decide) admits.selectStatement,
    by simp⟩

theorem allows_opening : ∀ line ∈ openingOf eventClass, Allows allowed line := by
  have label : Allows allowed (labelPart eventClass.label) := by
    rw [labelPart]
    split
    · simp [Allows]
    · simp only [allows_append]
      exact ⟨⟨allows_ofString printable _ (by decide), admits.label⟩,
        allows_ofString printable _ (by decide)⟩
  simp only [openingOf, List.forall_mem_cons, allows_append]
  exact ⟨⟨⟨allows_ofString printable _ (by decide), admits.name⟩,
      allows_ofString printable _ (by decide)⟩,
    ⟨⟨⟨allows_ofString printable _ (by decide), admits.tableLiteral⟩, label⟩,
      allows_ofString printable _ (by decide)⟩, by simp [Allows], by simp⟩

theorem allows_attributes : ∀ line ∈ attributeLines eventClass, Allows allowed line := by
  intro line member
  obtain ⟨found, foundMember, lineMember⟩ := List.mem_flatMap.mp member
  rcases List.mem_cons.mp lineMember with rfl | lineMember
  · rw [allows_append]
    exact ⟨allows_ofString printable _ (by decide), (admits.attributes found foundMember).2.1⟩
  · rw [List.mem_singleton.mp lineMember, allows_append, allows_append]
    exact ⟨⟨allows_ofString printable _ (by decide),
      (admits.attributes found foundMember).1⟩,
      allows_ofString printable _ (by decide)⟩

theorem allows_making : ∀ line ∈ makingLines eventClass, Allows allowed line := by
  have named := admits.name
  simp only [makingLines, List.forall_mem_cons, allows_append]
  exact ⟨by simp [Allows], allows_ofString printable _ (by decide),
    ⟨⟨allows_ofString printable _ (by decide), named⟩, allows_ofString printable _ (by decide)⟩,
    ⟨⟨allows_ofString printable _ (by decide), named⟩, allows_ofString printable _ (by decide)⟩,
    allows_ofString printable _ (by decide), by simp⟩

theorem allows_generators : ∀ line ∈ generatorLines eventClass, Allows allowed line := by
  intro line member
  obtain ⟨found, foundMember, rfl⟩ := List.mem_map.mp member
  have names := admits.attributes found foundMember
  simp only [allows_append]
  exact ⟨⟨⟨⟨allows_ofString printable _ (by decide), names.1⟩,
    allows_ofString printable _ (by decide)⟩, names.2.2⟩,
    allows_ofString printable _ (by decide)⟩

theorem allows_storing : ∀ line ∈ storingLines eventClass, Allows allowed line := by
  simp only [storingLines, List.forall_mem_cons, allows_append]
  exact ⟨allows_ofString printable _ (by decide), by simp [Allows],
    allows_ofString printable _ (by decide),
    ⟨⟨allows_ofString printable _ (by decide), admits.table⟩,
      allows_ofString printable _ (by decide)⟩,
    allows_ofString printable _ (by decide), by simp⟩

theorem allows_binding : Allows allowed (bindingLine eventClass) := by
  have names : Allows allowed (Text.join ", "
      (eventClass.stored.map fun name => ("self." : Text) ++ name)) := by
    apply Text.allows_join _ _ (allows_ofString printable _ (by decide))
    intro piece member
    obtain ⟨name, nameMember, rfl⟩ := List.mem_map.mp member
    exact (allows_append _ _).mpr ⟨allows_ofString printable _ (by decide),
      admits.stored name nameMember⟩
  simp only [bindingLine, allows_append]
  exact ⟨⟨allows_ofString printable _ (by decide), names⟩, allows_ofString printable _ (by decide)⟩

theorem allows_query : ∀ line ∈ queryLines eventClass, Allows allowed line := by
  simp only [queryLines, List.forall_mem_cons, allows_append]
  exact ⟨⟨⟨allows_ofString printable _ (by decide), admits.name⟩,
      allows_ofString printable _ (by decide)⟩,
    ⟨⟨⟨⟨allows_ofString printable _ (by decide), admits.table⟩,
      allows_ofString printable _ (by decide)⟩, admits.timeColumn⟩,
      allows_ofString printable _ (by decide)⟩, by simp⟩

omit admits in
theorem allows_decodings (index : Nat) (decodings : List Decoding)
    (named : ∀ decoding ∈ decodings, Allows allowed decoding.name) :
    ∀ line ∈ decodingLines index decodings, Allows allowed line := by
  induction decodings generalizing index with
  | nil => simp [decodingLines]
  | cons decoding decodings ih =>
      rw [decodingLines, List.forall_mem_cons]
      refine ⟨?_, ih (index + 1) fun other member => named other (by simp [member])⟩
      simp only [allows_append]
      exact ⟨⟨⟨⟨⟨⟨allows_ofString printable _ (by decide),
        named decoding (by simp)⟩,
        allows_ofString printable _ (by decide)⟩, allows_ofNat printable index⟩,
        allows_ofString printable _ (by decide)⟩, allows_ofNat printable decoding.width⟩,
        allows_ofString printable _ (by decide)⟩

theorem allows_bodyLines : ∀ line ∈ bodyLines eventClass, Allows allowed line := by
  have front : ∀ line ∈ frontLines eventClass, Allows allowed line := by
    simp only [frontLines, List.forall_mem_append]
    exact ⟨allows_opening printable eventClass admits,
      allows_constants printable eventClass admits, by simp [Allows]⟩
  rw [← List.append_nil (bodyLines eventClass), bodyLines_eq]
  simp only [List.forall_mem_append, List.forall_mem_cons]
  exact ⟨front, allows_attributes printable eventClass admits,
    allows_making printable eventClass admits, allows_generators printable eventClass admits,
    allows_storing printable eventClass admits, allows_fixed printable _ callLines_fixed,
    allows_binding printable eventClass admits, allows_fixed printable _ storedLines_fixed,
    allows_query printable eventClass admits, allows_fixed printable _ rowLines_fixed,
    allows_decodings printable 0 _ admits.retrieved, allows_fixed printable _ retrieveEnd_fixed,
    by simp⟩

end Lines

section Module

variable {allowed : CodePoint → Prop} (module : EventModule) (admits : Admits allowed module)

include admits

theorem allows_classLines : ∀ line ∈ module.classes.flatMap classLines, Allows allowed line := by
  have printable := admits.printable
  intro line member
  obtain ⟨eventClass, classMember, lineMember⟩ := List.mem_flatMap.mp member
  have body := allows_bodyLines printable eventClass (admits.classes eventClass classMember)
  have whole : ∀ line ∈ classLines eventClass, Allows allowed line := by
    rw [classLines_eq]
    simp only [List.forall_mem_cons]
    exact ⟨by simp [Allows], by simp [Allows], allows_ofString printable _ (by decide), body⟩
  exact whole line lineMember

theorem allows_title : ∀ line ∈ sectionLines "Event Types", Allows allowed line := by
  apply allows_fixed admits.printable
  rw [sectionLines, ruleLine]
  repeat rw [Text.ofString_ofList]
  rfl

theorem allows_generatorImport : ∀ line ∈ generatorImport module, Allows allowed line := by
  have printable := admits.printable
  rw [generatorImport]
  split
  · simp
  · intro line member
    rw [List.mem_singleton.mp member, allows_append, generatorsLead]
    exact ⟨allows_ofString printable _ (by decide),
      Text.allows_join _ _ (allows_ofString printable _ (by decide)) fun piece member =>
        admits.generators piece member⟩

theorem allows_sourceText : Allows allowed (sourceText module) := by
  rw [sourceText]
  cases found : module.source with
  | none => exact allows_ofString admits.printable _ (by decide)
  | some source => exact admits.source source found

theorem allows_header : ∀ line ∈ header module, Allows allowed line := by
  have printable := admits.printable
  rw [← List.append_nil (header module), header_eq]
  simp only [List.forall_mem_append, List.forall_mem_cons, allows_append]
  exact ⟨allows_fixed printable _ openingLines_fixed, allows_generatorImport module admits,
    ⟨allows_ofString printable _ (by decide), by simp [Allows],
      allows_ofString printable _ (by decide), by simp⟩,
    ⟨allows_ofString printable _ (by decide), allows_sourceText module admits⟩, by simp [Allows],
    ⟨allows_ofString printable _ (by decide), admits.fingerprint⟩, by simp⟩

theorem allows_constructors : ∀ line ∈ (module.classes.map fun eventClass => ("    " : Text) ++
    Literal.ofText eventClass.table ++ ": " ++ eventClass.name ++ ".new_random,"),
    Allows allowed line := by
  have printable := admits.printable
  intro line member
  obtain ⟨eventClass, classMember, rfl⟩ := List.mem_map.mp member
  have admitted := admits.classes eventClass classMember
  simp only [allows_append]
  exact ⟨⟨⟨⟨allows_ofString printable _ (by decide), admitted.tableLiteral⟩,
    allows_ofString printable _ (by decide)⟩, admitted.name⟩,
    allows_ofString printable _ (by decide)⟩

theorem allows_types : ∀ line ∈ (module.classes.map fun eventClass =>
    ("    " : Text) ++ eventClass.name ++ ","), Allows allowed line := by
  have printable := admits.printable
  intro line member
  obtain ⟨eventClass, classMember, rfl⟩ := List.mem_map.mp member
  simp only [allows_append]
  exact ⟨⟨allows_ofString printable _ (by decide), (admits.classes eventClass classMember).name⟩,
    allows_ofString printable _ (by decide)⟩

theorem allows_registryLines : ∀ line ∈ registryLines module, Allows allowed line := by
  have printable := admits.printable
  rw [registryLines_eq]
  split
  · simp only [List.forall_mem_append]
    exact ⟨⟨allows_fixed printable _ registryOpening_fixed,
      allows_fixed printable _ emptyRegistry_fixed⟩,
      allows_fixed printable _ migrationLines_fixed⟩
  · simp only [List.forall_mem_append]
    exact ⟨⟨allows_fixed printable _ registryOpening_fixed,
      ⟨⟨⟨allows_fixed printable _ (by simpa using constructorsLine_fixed),
        allows_constructors module admits⟩, allows_fixed printable _ typesLines_fixed⟩,
        allows_types module admits⟩,
        allows_fixed printable _ (by rfl)⟩,
      allows_fixed printable _ migrationLines_fixed⟩

/-- What a module lets in holds of all code points of its lines. -/
theorem allows_lines : ∀ line ∈ lines module, Allows allowed line := by
  simp only [lines, List.forall_mem_append]
  exact ⟨⟨⟨allows_header module admits, allows_title module admits⟩, allows_classLines module admits⟩,
    allows_registryLines module admits⟩

end Module

end ModuleText

end EventForge
