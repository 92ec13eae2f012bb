import EventForge.Proofs.Module.Points

/-!
# Writing a module and reading it

The text of a module with plain names is cut into the lines that it was written from, and reading
them gives the module back.
-/

namespace EventForge

namespace ModuleText

theorem lines_ne_nil (module : EventModule) : lines module ≠ [] := by
  simp [lines, header, openingLines]

/-- The text of a module is cut into its lines, if none of them holds a line feed. -/
theorem lines_write (module : EventModule)
    (whole : ∀ line ∈ lines module, CodePoint.ofChar '\n' ∉ line) :
    (write module).lines = lines module ++ [[]] := by
  have joined : write module =
      Text.join [CodePoint.ofChar '\n'] (lines module ++ [[]]) := by
    rw [Text.join_append_singleton _ _ _ (lines_ne_nil module), List.append_nil]
    rfl
  rw [Text.lines, joined, Text.splitAt_join]
  · simp
  · intro piece member
    rcases List.mem_append.mp member with line | last
    · exact whole piece line
    · rw [List.mem_singleton.mp last]
      simp

theorem mem_write_of_line (module : EventModule) (line : Text) (member : line ∈ lines module)
    (point : CodePoint) (pointMember : point ∈ line) : point ∈ write module := by
  have joined : ∀ pieces : List Text, line ∈ pieces → point ∈ Text.join "\n" pieces := by
    intro pieces lineMember
    induction pieces with
    | nil => simp at lineMember
    | cons piece pieces ih =>
        cases pieces with
        | nil =>
            rw [Text.join_singleton, ← List.mem_singleton.mp lineMember]
            exact pointMember
        | cons next pieces =>
            rw [Text.join_cons_cons, List.mem_append, List.mem_append]
            rcases List.mem_cons.mp lineMember with rfl | later
            · exact Or.inl (Or.inl pointMember)
            · exact Or.inr (ih later)
  exact List.mem_append_left _ (joined _ member)

/-- The label of a class stands in the text of the module. -/
theorem mem_write_of_label (module : EventModule) (eventClass : EventClass)
    (member : eventClass ∈ module.classes) (point : CodePoint)
    (inside : point ∈ eventClass.label) : point ∈ write module := by
  refine mem_write_of_line module (("    \"\"\"Event type " : Text) ++
    Literal.ofText eventClass.table ++ labelPart eventClass.label ++ ".\"\"\"") ?_ point ?_
  · have own : ("    \"\"\"Event type " : Text) ++ Literal.ofText eventClass.table ++
        labelPart eventClass.label ++ ".\"\"\"" ∈ classLines eventClass := by
      simp [classLines_eq, bodyLines, openingOf]
    have classes := List.mem_flatMap.mpr ⟨eventClass, member, own⟩
    rw [lines, List.mem_append, List.mem_append]
    exact Or.inl (Or.inr classes)
  · have part : point ∈ labelPart eventClass.label := by
      have inhabited : eventClass.label.isEmpty = false :=
        List.isEmpty_eq_false_iff.mpr (List.ne_nil_of_mem inside)
      rw [labelPart, inhabited, if_neg Bool.false_ne_true]
      simp [inside]
    simp [part]

/-- The literal of the source stands in the text of the module. -/
theorem mem_write_of_source (module : EventModule) (source : Text)
    (given : module.source = some source) (point : CodePoint)
    (inside : point ∈ Literal.ofText source) : point ∈ write module := by
  refine mem_write_of_line module (sourceLead ++ sourceText module) ?_ point ?_
  · have own : sourceLead ++ sourceText module ∈ header module := by
      rw [← List.append_nil (header module), header_eq]
      simp
    rw [lines, List.mem_append, List.mem_append, List.mem_append]
    exact Or.inl (Or.inl (Or.inl own))
  · rw [sourceText, given]
    simp [inside]

theorem mem_write (module : EventModule) (point : CodePoint) (member : point ∈ write module) :
    point = CodePoint.lineFeed ∨ ∃ line ∈ lines module, point ∈ line := by
  have joined : ∀ pieces : List Text, point ∈ Text.join "\n" pieces →
      point = CodePoint.lineFeed ∨ ∃ line ∈ pieces, point ∈ line := by
    intro pieces pointMember
    induction pieces with
    | nil => simp at pointMember
    | cons piece pieces ih =>
        cases pieces with
        | nil => exact Or.inr ⟨piece, by simp, pointMember⟩
        | cons next pieces =>
            rw [Text.join_cons_cons, List.mem_append, List.mem_append] at pointMember
            rcases pointMember with (own | feed) | later
            · exact Or.inr ⟨piece, by simp, own⟩
            · exact Or.inl (List.mem_singleton.mp feed)
            · rcases ih later with feed | ⟨line, lineMember, inside⟩
              · exact Or.inl feed
              · exact Or.inr ⟨line, List.mem_cons_of_mem _ lineMember, inside⟩
  rcases List.mem_append.mp member with inside | feed
  · exact joined _ inside
  · exact Or.inl (List.mem_singleton.mp feed)

theorem blocksOf_lines (module : EventModule) :
    blocksOf (lines module ++ [[]]) = classBlocks (registryLines module ++ [[]]) module.classes := by
  have title : classStart ∉ sectionLines "Event Types" := by
    apply not_mem_of_unmarked
    rfl
  have front : classStart ∉ header module ++ sectionLines "Event Types" := by
    rw [List.mem_append, not_or]
    exact ⟨not_mem_of_unmarked _ (header_unmarked module), title⟩
  have cut := collect_classLines (registryLines module ++ [[]])
    (not_mem_of_unmarked _ (registry_unmarked module)) _ front module.classes []
  rw [← cut, blocksOf, lines]
  simp only [List.append_assoc]

/-- The generators of a module are read from its lines, or found in none of them. -/
theorem generators_read_back (module : EventModule) (plain : IsPlainModule module)
    (generated : module.classes ≠ [] → module.generators ≠ []) :
    ((after? generatorsLead (lines module ++ [[]])).map listed).getD [] = module.generators := by
  by_cases unused : module.generators = []
  · have bare : module.classes = [] := Classical.byContradiction fun some => generated some unused
    rw [generators_unread module unused bare, unused]
    rfl
  · have whole : listed (Text.join ", " module.generators) = module.generators := by
      apply listed_join
      intro piece member
      have named := plain.generators piece member
      refine ⟨?_, Identifier.not_mem_of_isPlain piece named ',' (by decide)⟩
      rintro rfl
      cases named
    have shape : lines module ++ [[]] = header module ++ (sectionLines "Event Types" ++
        module.classes.flatMap classLines ++ registryLines module ++ [[]]) := by
      simp only [lines, List.append_assoc]
    rw [shape, generators_read _ _ unused]
    exact whole

/-- The lines of a module with plain names read back as the module. -/
theorem declarations?_lines (module : EventModule) (plain : IsPlainModule module)
    (generated : module.classes ≠ [] → module.generators ≠ []) :
    declarations? (lines module ++ [[]]) = some module := by
  have classes := mapM_classBlocks (registryLines module ++ [[]])
    (registry_aside module plain.classes) module.classes plain.classes
  rw [← blocksOf_lines] at classes
  have generators := generators_read_back module plain generated
  have shape : ∃ rest, lines module ++ [[]] = header module ++ rest := by
    rw [lines, List.append_assoc, List.append_assoc, List.append_assoc]
    exact ⟨_, rfl⟩
  obtain ⟨rest, shape⟩ := shape
  rw [shape] at generators
  unfold declarations?
  rw [classes, shape, source_read, fingerprint_read]
  cases found : module.source with
  | none =>
      have text : sourceText module = "None" := by rw [sourceText, found]; rfl
      simp only [Option.bind_eq_bind, Option.bind_some, text, if_true, Literal.value?_ofText,
        generators]
      rw [← found]
      rfl
  | some source =>
      have text : sourceText module = Literal.ofText source := by rw [sourceText, found]; rfl
      have apart : Literal.ofText source ≠ ("None" : Text) := by
        rw [Literal.ofText_eq]
        exact fun same => absurd (List.cons.inj same).1 (by decide)
      simp only [Option.bind_eq_bind, Option.bind_some, text, apart, if_false,
        Literal.value?_ofText, Option.map_some, generators]
      rw [← found]
      rfl

/-- Whether an attribute of a module hides the mark of class methods. -/
def hidesMark (module : EventModule) : Bool :=
  module.classes.any fun eventClass => eventClass.attributes.any fun found =>
    found.name = classMark

/-- A module with plain names is read back from its text, unless an attribute hides the mark of
class methods. -/
theorem read_write (module : EventModule) (plain : IsPlainModule module)
    (generated : module.classes ≠ [] → module.generators ≠ [])
    (named : isNamed module = true)
    (whole : ∀ line ∈ lines module, CodePoint.ofChar '\n' ∉ line) :
    read (write module) = if hidesMark module then .error .hiddenMark else .ok module := by
  have isWhole : isWhole module = true := by
    rw [ModuleText.isWhole, List.all_eq_true]
    intro line member
    simpa using whole line member
  rw [read, lines_write module whole, declarations?_lines module plain generated]
  simp only [named, isWhole, ne_eq, not_true_eq_false, decide_false, Bool.not_true, Bool.or_self,
    Bool.false_eq_true, if_false, hidesMark]
  rfl

/-- What is read from a text is written as that text, line by line. -/
theorem of_read (text : Text) (module : EventModule) (found : read text = .ok module) :
    write module = text ∧ isNamed module = true ∧
      ∀ line ∈ lines module, CodePoint.ofChar '\n' ∉ line := by
  unfold read at found
  split at found
  · cases found
  · split at found
    · cases found
    · rename_i proper
      split at found
      · cases found
      · obtain rfl := Except.ok.inj found
        simp only [Bool.or_eq_true, decide_eq_true_eq, Bool.not_eq_true', not_or, ne_eq,
          Decidable.not_not, Bool.not_eq_false, isWhole, List.all_eq_true,
          List.contains_eq_mem, decide_eq_false_iff_not] at proper
        exact ⟨proper.1.1, proper.1.2, proper.2⟩

end ModuleText

end EventForge
