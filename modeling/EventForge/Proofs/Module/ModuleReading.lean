import EventForge.Proofs.Module.ClassReading

/-!
# Reading a module back

The lines of a module are cut at the marks of its classes.  Each class is read from its own lines,
and the module that is read is the one that was written.
-/

namespace EventForge

namespace ModuleText

/-- The mark above a class. -/
def classStart : Text := "@dataclass"

theorem collect_of_not_mem (block lines : List Text) (absent : classStart ∉ lines) :
    blocksOf.collect block lines = [block.reverse ++ lines] := by
  induction lines generalizing block with
  | nil => simp [blocksOf.collect]
  | cons line lines ih =>
      have other : line ≠ ("@dataclass" : Text) := by
        rintro rfl
        exact absent (List.mem_cons_self)
      rw [blocksOf.collect, if_neg other, ih _ fun member => absent (List.mem_cons_of_mem _ member)]
      simp

theorem collect_append (block front lines : List Text) (absent : classStart ∉ front) :
    blocksOf.collect block (front ++ classStart :: lines) =
      (block.reverse ++ front) :: blocksOf.collect [] lines := by
  induction front generalizing block with
  | nil =>
      rw [List.nil_append, blocksOf.collect]
      simp [classStart]
  | cons line front ih =>
      have other : line ≠ ("@dataclass" : Text) := by
        rintro rfl
        exact absent (List.mem_cons_self)
      rw [List.cons_append, blocksOf.collect, if_neg other,
        ih _ fun member => absent (List.mem_cons_of_mem _ member)]
      simp

theorem not_mem_of_unmarked (lines : List Text) (unmarked : lines.all isUnmarked = true) :
    classStart ∉ lines := by
  intro member
  exact absurd (List.all_eq_true.mp unmarked _ member) (by decide)

theorem bodyLines_unmarked (eventClass : EventClass) :
    (bodyLines eventClass).all isUnmarked = true := by
  have attributes : (attributeLines eventClass).all isUnmarked = true := by
    rw [List.all_eq_true]
    intro line member
    obtain ⟨found, _, lineMember⟩ := List.mem_flatMap.mp member
    rcases List.mem_cons.mp lineMember with rfl | lineMember
    · rfl
    · rw [List.mem_singleton.mp lineMember]
      rfl
  have generators : (generatorLines eventClass).all isUnmarked = true := by
    rw [List.all_eq_true]
    intro line member
    obtain ⟨found, _, rfl⟩ := List.mem_map.mp member
    rfl
  have decodings : ∀ index decodings, (decodingLines index decodings).all isUnmarked = true := by
    intro index decodings
    induction decodings generalizing index with
    | nil => rfl
    | cons decoding decodings ih =>
        rw [decodingLines, List.all_cons, ih, Bool.and_true]
        rfl
  have front := unmarked_of_near _ (front_near eventClass)
  have making := unmarked_of_near _ (making_near eventClass)
  have storing := unmarked_of_near _ (storing_near eventClass)
  have call := unmarked_of_fixed _ callLines_fixed
  have binding : isUnmarked (bindingLine eventClass) = true := rfl
  have stored := unmarked_of_fixed _ storedLines_fixed
  have query := unmarked_of_near _ (query_near eventClass)
  have row := unmarked_of_fixed _ rowLines_fixed
  have ending := unmarked_of_fixed _ retrieveEnd_fixed
  rw [← List.append_nil (bodyLines eventClass), bodyLines_eq]
  simp only [List.all_append, List.all_cons, front, attributes, making, generators, storing, call,
    binding, stored, query, row, decodings, ending, List.all_nil, Bool.and_true]

/-- The lines of each class, with those in front of the next one or those behind all classes. -/
def classBlocks (behind : List Text) : List EventClass → List (List Text)
  | [] => []
  | [eventClass] => [bodyLines eventClass ++ behind]
  | eventClass :: next :: classes =>
      (bodyLines eventClass ++ [[], []]) :: classBlocks behind (next :: classes)

theorem collect_classLines (behind : List Text) (apart : classStart ∉ behind) (front : List Text)
    (free : classStart ∉ front) (classes : List EventClass) (block : List Text) :
    (blocksOf.collect block (front ++ (classes.flatMap classLines ++ behind))).drop 1 =
      classBlocks behind classes := by
  induction classes generalizing front block with
  | nil =>
      have absent : classStart ∉ front ++ behind := by simp [free, apart]
      rw [List.flatMap_nil, List.nil_append, collect_of_not_mem block _ absent]
      rfl
  | cons eventClass classes ih =>
      have unmarked := not_mem_of_unmarked _ (bodyLines_unmarked eventClass)
      have bare : classStart ∉ front ++ [[], []] := by
        rw [List.mem_append, not_or]
        exact ⟨free, by decide⟩
      have shape : front ++ ((eventClass :: classes).flatMap classLines ++ behind) =
          (front ++ [[], []]) ++ classStart ::
            (bodyLines eventClass ++ (classes.flatMap classLines ++ behind)) := by
        simp [classLines_eq, classStart]
      rw [shape, collect_append block _ _ bare, List.drop_one, List.tail_cons]
      cases classes with
      | nil =>
          rw [List.flatMap_nil, List.nil_append, collect_of_not_mem _ _ (by simp [unmarked, apart])]
          rfl
      | cons next classes =>
          have nextBare : classStart ∉ bodyLines eventClass ++ [[], []] := by
            rw [List.mem_append, not_or]
            exact ⟨unmarked, by decide⟩
          have nextShape : bodyLines eventClass ++
              ((next :: classes).flatMap classLines ++ behind) =
              (bodyLines eventClass ++ [[], []]) ++ classStart ::
                (bodyLines next ++ (classes.flatMap classLines ++ behind)) := by
            simp [classLines_eq, classStart]
          have later := ih (bodyLines eventClass) unmarked []
          rw [nextShape, collect_append _ _ _ nextBare, List.drop_one, List.tail_cons] at later
          rw [nextShape, collect_append _ _ _ nextBare, later]
          rfl

/-- The blocks of the classes read back as the classes. -/
theorem mapM_classBlocks (behind : List Text) (aside : behind.all isAside = true)
    (classes : List EventClass) (plain : ∀ eventClass ∈ classes, IsPlainClass eventClass) :
    (classBlocks behind classes).mapM class? = some classes := by
  induction classes with
  | nil => rfl
  | cons eventClass classes ih =>
      have others := ih fun other member => plain other (by simp [member])
      cases classes with
      | nil =>
          have read := class?_bodyLines eventClass behind aside (plain eventClass (by simp))
          simp [classBlocks, read]
      | cons next classes =>
          have read := class?_bodyLines eventClass [[], []] (by rfl)
            (plain eventClass (by simp))
          simp [classBlocks, read, others]

theorem constructors_aside (classes : List EventClass) :
    (classes.map fun eventClass => ("    " : Text) ++ Literal.ofText eventClass.table ++ ": " ++
      eventClass.name ++ ".new_random,").all isAside = true := by
  apply all_aside
  rw [List.all_map, List.all_eq_true]
  intro eventClass _
  rfl

theorem types_aside (classes : List EventClass)
    (plain : ∀ eventClass ∈ classes, IsPlainClass eventClass) :
    (classes.map fun eventClass => ("    " : Text) ++ eventClass.name ++ ",").all isAside =
      true := by
  apply all_aside
  rw [List.all_map, List.all_eq_true]
  intro eventClass member
  have named := (plain eventClass member).name
  have remark : Text.dropLead? (("    " : Text) ++ eventClass.name ++ ",") "    # " = none :=
    dropLead?_of_isPlain "    " eventClass.name "," named '#' (by decide) " "
  have indented : Text.dropLead? (("    " : Text) ++ eventClass.name ++ ",") "            " = none :=
    dropLead?_of_isPlain "    " eventClass.name "," named ' ' (by decide) "       "
  simp only [Function.comp_apply, remark, indented]
  rfl

/-- The lines of the registry in front of its entries. -/
def registryOpening : List Text :=
  sectionLines "Registry" ++
    [[], ("# Event name -> function generating a random instance of that event type" : Text)]

/-- The lines of a registry without entries. -/
def emptyRegistry : List Text :=
  [("RANDOM_GENERATOR_CONSTRUCTORS: dict[str, EventConstructor] = \x7b\x7d" : Text), [],
    "EVENT_TYPES: tuple[type[Event], ...] = ()"]

/-- The line in front of the entries of a registry. -/
def constructorsLine : Text :=
  "RANDOM_GENERATOR_CONSTRUCTORS: dict[str, EventConstructor] = \x7b"

/-- The lines between the two parts of a registry. -/
def typesLines : List Text :=
  [("\x7d" : Text), [], "EVENT_TYPES: tuple[type[Event], ...] = ("]

theorem registryLines_eq (module : EventModule) :
    registryLines module =
      registryOpening ++ (if module.classes.isEmpty then emptyRegistry
        else [constructorsLine] ++ (module.classes.map fun eventClass => ("    " : Text) ++
            Literal.ofText eventClass.table ++ ": " ++ eventClass.name ++ ".new_random,") ++
          typesLines ++ (module.classes.map fun eventClass =>
            ("    " : Text) ++ eventClass.name ++ ",") ++ [(")" : Text)]) ++
        migrationLines := by
  simp only [registryLines, registryOpening, emptyRegistry, constructorsLine, typesLines,
    List.append_assoc]

theorem registryOpening_fixed : registryOpening.all isFixed = true := by
  rw [registryOpening, sectionLines, ruleLine]
  repeat rw [Text.ofString_ofList]
  rfl

theorem emptyRegistry_fixed : emptyRegistry.all isFixed = true := by
  rw [emptyRegistry]
  repeat rw [Text.ofString_ofList]
  rfl

theorem constructorsLine_fixed : isFixed constructorsLine = true := by
  rw [constructorsLine, Text.ofString_ofList]
  rfl

theorem typesLines_fixed : typesLines.all isFixed = true := by
  rw [typesLines]
  repeat rw [Text.ofString_ofList]
  rfl

theorem migrationLines_fixed : migrationLines.all isFixed = true := by
  rw [migrationLines]
  simp only [List.map_cons, List.map_nil]
  repeat rw [Text.ofString_ofList]
  rfl

/-- What holds of all fixed lines and of the entries holds of all lines of the registry. -/
theorem registry_all (module : EventModule) (accepts : Text → Bool)
    (fixed : ∀ lines : List Text, lines.all isFixed = true → lines.all accepts = true)
    (constructors : (module.classes.map fun eventClass => ("    " : Text) ++
      Literal.ofText eventClass.table ++ ": " ++ eventClass.name ++ ".new_random,").all accepts =
        true)
    (types : (module.classes.map fun eventClass =>
      ("    " : Text) ++ eventClass.name ++ ",").all accepts = true) :
    (registryLines module ++ [[]]).all accepts = true := by
  have first : [constructorsLine].all accepts = true :=
    fixed _ (by simpa using constructorsLine_fixed)
  have closing : [(")" : Text)].all accepts = true := fixed _ (by rfl)
  have ending : [([] : Text)].all accepts = true := fixed _ (by rfl)
  rw [registryLines_eq]
  split
  · simp only [List.all_append, fixed _ registryOpening_fixed, fixed _ emptyRegistry_fixed,
      fixed _ migrationLines_fixed, ending, Bool.and_true]
  · simp only [List.all_append, fixed _ registryOpening_fixed, first, constructors,
      fixed _ typesLines_fixed, types, closing, fixed _ migrationLines_fixed, ending,
      Bool.and_true]

theorem registry_aside (module : EventModule)
    (plain : ∀ eventClass ∈ module.classes, IsPlainClass eventClass) :
    (registryLines module ++ [[]]).all isAside = true := by
  exact registry_all module isAside aside_of_fixed (constructors_aside module.classes)
    (types_aside module.classes plain)

theorem registry_unmarked (module : EventModule) :
    (registryLines module ++ [[]]).all isUnmarked = true := by
  apply registry_all module isUnmarked unmarked_of_fixed <;>
  · rw [List.all_map, List.all_eq_true]
    intro eventClass _
    rfl

/-- The import of the generators of a module. -/
def generatorImport (module : EventModule) : List Text :=
  if module.generators.isEmpty then []
  else [generatorsLead ++ Text.join ", " module.generators]

/-- The literal of the source of a module. -/
def sourceText (module : EventModule) : Text := (module.source.map Literal.ofText).getD "None"

theorem header_eq (module : EventModule) (lines : List Text) :
    header module ++ lines =
      openingLines ++ (generatorImport module ++
        ([("from dbload.eventgen.runtime.storage import auto_migrate" : Text), [],
          "# Schema source this module was generated from, watched at runtime"] ++
          ((sourceLead ++ sourceText module) :: [] ::
            (fingerprintLead ++ Literal.ofText module.fingerprint) :: lines))) := by
  simp only [header, generatorImport, sourceText, List.append_assoc, List.cons_append,
    List.nil_append]

theorem openingLines_fixed : openingLines.all isFixed = true := by
  rw [openingLines]
  simp only [List.map_cons, List.map_nil]
  repeat rw [Text.ofString_ofList]
  rfl

theorem header_unmarked (module : EventModule) : (header module).all isUnmarked = true := by
  have opening := unmarked_of_fixed _ openingLines_fixed
  have imported : (generatorImport module).all isUnmarked = true := by
    rw [generatorImport]
    split <;> rfl
  rw [← List.append_nil (header module), header_eq]
  simp only [List.all_append, opening, imported, Bool.true_and]
  rw [sourceLead, fingerprintLead]
  repeat rw [Text.ofString_ofList]
  rfl

section Header

variable (module : EventModule) (lines : List Text)

/-- No opening line begins like a line that is searched. -/
theorem openingLines_apart : ∀ line ∈ openingLines,
    Text.dropLead? line generatorsLead = none ∧ Text.dropLead? line sourceLead = none ∧
      Text.dropLead? line fingerprintLead = none := by
  have apart : (openingLines.all fun line => (Text.dropLead? line generatorsLead).isNone &&
      ((Text.dropLead? line sourceLead).isNone && (Text.dropLead? line fingerprintLead).isNone)) =
      true := by
    rw [openingLines, generatorsLead, sourceLead, fingerprintLead]
    simp only [List.map_cons, List.map_nil]
    repeat rw [Text.ofString_ofList]
    rfl
  simpa only [List.all_eq_true, Bool.and_eq_true, Option.isNone_iff_eq_none] using apart

theorem generatorImport_apart : ∀ line ∈ generatorImport module,
    Text.dropLead? line sourceLead = none ∧ Text.dropLead? line fingerprintLead = none := by
  have apart : ((generatorImport module).all fun line => (Text.dropLead? line sourceLead).isNone &&
      (Text.dropLead? line fingerprintLead).isNone) = true := by
    rw [generatorImport, generatorsLead, sourceLead, fingerprintLead]
    repeat rw [Text.ofString_ofList]
    split <;> rfl
  simpa only [List.all_eq_true, Bool.and_eq_true, Option.isNone_iff_eq_none] using apart

theorem source_read :
    after? sourceLead (header module ++ lines) = some (sourceText module) := by
  have remark : ([("from dbload.eventgen.runtime.storage import auto_migrate" : Text), [],
      "# Schema source this module was generated from, watched at runtime"].all fun line =>
      (Text.dropLead? line sourceLead).isNone) = true := by
    rw [sourceLead]
    repeat rw [Text.ofString_ofList]
    rfl
  rw [header_eq, after?_append _ _ _ fun line member => (openingLines_apart line member).2.1,
    after?_append _ _ _ fun line member => (generatorImport_apart module line member).1]
  exact after?_found sourceLead _ _ _ remark

theorem fingerprint_read :
    after? fingerprintLead (header module ++ lines) =
      some (Literal.ofText module.fingerprint) := by
  have remark : ∀ line ∈ [("from dbload.eventgen.runtime.storage import auto_migrate" : Text), [],
      "# Schema source this module was generated from, watched at runtime",
      sourceLead ++ sourceText module, []], Text.dropLead? line fingerprintLead = none := by
    rw [sourceLead, fingerprintLead]
    repeat rw [Text.ofString_ofList]
    simp only [List.forall_mem_cons]
    exact ⟨rfl, rfl, rfl, rfl, rfl, by simp⟩
  have apart := after?_append fingerprintLead _
    ((fingerprintLead ++ Literal.ofText module.fingerprint) :: lines) remark
  rw [header_eq, after?_append _ _ _ fun line member => (openingLines_apart line member).2.2,
    after?_append _ _ _ fun line member => (generatorImport_apart module line member).2,
    ← after?_self]
  exact apart

theorem generators_read (inhabited : module.generators ≠ []) :
    after? generatorsLead (header module ++ lines) =
      some (Text.join ", " module.generators) := by
  have present : module.generators.isEmpty = false := by simpa using inhabited
  rw [header_eq, after?_append _ _ _ fun line member => (openingLines_apart line member).1,
    generatorImport, present, if_neg Bool.false_ne_true, List.singleton_append]
  exact after?_self _ _ _

end Header

/-- No line of a module without classes and generators imports a generator. -/
theorem generators_unread (module : EventModule) (unused : module.generators = [])
    (bare : module.classes = []) : after? generatorsLead (lines module ++ [[]]) = none := by
  have heading : ([("from dbload.eventgen.runtime.storage import auto_migrate" : Text), [],
      "# Schema source this module was generated from, watched at runtime",
      sourceLead ++ sourceText module, [],
      fingerprintLead ++ Literal.ofText module.fingerprint].all fun line =>
        (Text.dropLead? line generatorsLead).isNone) = true := by
    rw [generatorsLead, sourceLead, fingerprintLead]
    repeat rw [Text.ofString_ofList]
    rfl
  have registry : ((sectionLines "Event Types" ++ registryOpening ++ emptyRegistry ++
      migrationLines ++ [[]]).all fun line => (Text.dropLead? line generatorsLead).isNone) =
        true := by
    rw [generatorsLead, registryOpening, emptyRegistry, migrationLines, sectionLines, sectionLines,
      ruleLine]
    simp only [List.map_cons, List.map_nil]
    repeat rw [Text.ofString_ofList]
    rfl
  have shape : lines module ++ [[]] = header module ++ (sectionLines "Event Types" ++
      registryOpening ++ emptyRegistry ++ migrationLines ++ [[]]) := by
    simp [lines, registryLines_eq, bare]
  have imported : generatorImport module = [] := by simp [generatorImport, unused]
  rw [shape, header_eq, after?_append _ _ _ fun line member => (openingLines_apart line member).1,
    imported, List.nil_append]
  simp only [List.all_eq_true, Option.isNone_iff_eq_none] at heading registry
  have passed := after?_append generatorsLead _ (sectionLines "Event Types" ++ registryOpening ++
    emptyRegistry ++ migrationLines ++ [[]]) heading
  exact passed.trans (List.findSome?_eq_none_iff.mpr registry)

end ModuleText

end EventForge
