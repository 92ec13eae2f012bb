import EventForge.Proofs.Module.OfSchema
import EventForge.Proofs.Module.Outline

/-!
# Names with a line feed

A usable name may end with a line feed.  The text of a module with such a name is no script, and no
module in the written form has this text: a line of it begins with what stands behind the name.
-/

namespace EventForge

namespace ModuleText

theorem marked_lines (module : EventModule) :
    ∀ line ∈ lines module, line = classStart ∨ isUnmarked line = true := by
  have title : (sectionLines "Event Types").all isUnmarked = true := rfl
  have unmarked : ∀ part : List Text, part.all isUnmarked = true →
      ∀ line ∈ part, line = classStart ∨ isUnmarked line = true :=
    fun part all line member => .inr (List.all_eq_true.mp all line member)
  intro line member
  rw [lines] at member
  simp only [List.mem_append] at member
  rcases member with ((front | sectionLine) | classes) | back
  · exact unmarked _ (header_unmarked module) line front
  · exact unmarked _ title line sectionLine
  · obtain ⟨eventClass, _, inside⟩ := List.mem_flatMap.mp classes
    rw [classLines_eq] at inside
    simp only [List.mem_cons] at inside
    rcases inside with rfl | rfl | rfl | inside
    · exact .inr rfl
    · exact .inr rfl
    · exact .inl rfl
    · exact unmarked _ (bodyLines_unmarked eventClass) line inside
  · exact unmarked _ (registry_unmarked module) line (List.mem_append_left _ back)

/-- Beginnings of what stands behind a line feed in a name.  No line of a module begins so. -/
def cutStarts : List Text := [" w", "Event("]

/-- Whether a line of a class is cut by a line feed in a name. -/
def IsCut (eventClass : EventClass) : Prop :=
  ∃ start ∈ cutStarts, ∃ front back,
    front ++ CodePoint.ofChar '\n' :: (start ++ back) ∈ bodyLines eventClass

theorem startsWith_of_mem_cutStarts (start : Text) (member : start ∈ cutStarts) (line : Text)
    (known : line = classStart ∨ isUnmarked line = true) : line.startsWith start = false := by
  rcases known with rfl | unmarked
  · revert start
    decide
  · simp only [isUnmarked, Bool.and_eq_true, Bool.not_eq_true'] at unmarked
    simp only [cutStarts, List.mem_cons, List.not_mem_nil, or_false] at member
    rcases member with rfl | rfl
    · exact unmarked.1.2
    · exact unmarked.2

/-- The text of a module with a cut line is not read as a module. -/
theorem read_of_isCut (module found : EventModule) (eventClass : EventClass)
    (member : eventClass ∈ module.classes) (cut : IsCut eventClass) :
    read (write module) ≠ .ok found := by
  intro isRead
  obtain ⟨written, _, whole⟩ := of_read _ _ isRead
  obtain ⟨start, startMember, front, back, line⟩ := cut
  have inside : front ++ CodePoint.ofChar '\n' :: (start ++ back) ∈ lines module := by
    have own : front ++ CodePoint.ofChar '\n' :: (start ++ back) ∈ classLines eventClass := by
      rw [classLines_eq]
      simp [line]
    rw [lines]
    simp only [List.mem_append]
    exact .inl (.inr (List.mem_flatMap.mpr ⟨eventClass, member, own⟩))
  obtain ⟨before, after, split⟩ := List.append_of_mem inside
  have text : write module = (textOf before ++ front) ++ CodePoint.ofChar '\n' ::
      (start ++ (back ++ CodePoint.ofChar '\n' :: textOf after)) := by
    rw [write_eq, split]
    simp [textOf]
  have unbroken : ∀ start ∈ cutStarts, CodePoint.ofChar '\n' ∉ start := by decide
  obtain ⟨piece, pieceMember, starts⟩ := Text.exists_piece (CodePoint.ofChar '\n')
    (textOf before ++ front) start (back ++ CodePoint.ofChar '\n' :: textOf after)
    (unbroken start startMember)
  rw [← text, ← written] at pieceMember
  change piece ∈ (write found).lines at pieceMember
  rw [lines_write found whole, List.mem_append] at pieceMember
  have known : piece = classStart ∨ isUnmarked piece = true := by
    rcases pieceMember with ofLines | last
    · exact marked_lines found piece ofLines
    · rw [List.mem_singleton.mp last]
      exact .inr rfl
  rw [startsWith_of_mem_cutStarts start startMember piece known] at starts
  cases starts

/-- A broken class name cuts the class line. -/
theorem isCut_of_name (eventClass : EventClass) (broken : IsBrokenName eventClass.name) :
    IsCut eventClass := by
  obtain ⟨front, _, named⟩ := broken
  refine ⟨"Event(", by simp [cutStarts], ("class " : Text) ++ front, ("Event):" : Text), ?_⟩
  have line : ("class " : Text) ++ eventClass.name ++ "(Event):" ∈ bodyLines eventClass := by
    simp [bodyLines, openingOf]
  rw [named] at line
  simpa [Text.ofString] using line

/-- A broken remark cuts its line. -/
theorem isCut_of_remark (eventClass : EventClass) (found : Attribute)
    (member : found ∈ eventClass.attributes) (broken : IsBrokenRemark found) :
    IsCut eventClass := by
  obtain ⟨front, back, _, comment⟩ := broken
  refine ⟨" w", by simp [cutStarts], ("    # " : Text) ++ front, back, ?_⟩
  have own : ("    # " : Text) ++ found.comment ∈ attributeLines eventClass :=
    List.mem_flatMap.mpr ⟨found, member, by simp⟩
  have line : ("    # " : Text) ++ found.comment ∈ bodyLines eventClass := by
    simp [bodyLines, own]
  rw [comment] at line
  simpa using line

end ModuleText

open ModuleText ScriptToken ScriptToken.Outline

namespace Compilation

theorem feed_eq : CodePoint.ofChar '\n' = CodePoint.lineFeed := rfl

/-- A usable name is plain, or a plain one with a line feed behind it. -/
theorem plain_or_broken (name : Text) (usable : Identifier.isUsable name = true) :
    Identifier.isPlain name = true ∨
      ∃ core, Identifier.isPlain core = true ∧ name = core ++ [CodePoint.lineFeed] :=
  (Identifier.isIdentifierText_iff name).mp (Identifier.isIdentifierText_of_isUsable name usable)

section Fields

/-- The attribute of a field. -/
def attributeOf (field : Field) : Attribute :=
  { name := field.name, comment := field.comment, generator := field.generator }

theorem attributes_classOf_eq (event : RawEvent) :
    (classOf event).attributes = (fieldsOf event).map attributeOf := rfl

/-- Names and remarks of declared fields, if the declared names are plain. -/
theorem attributeOf_declared (given : Text × Document) (position : Nat)
    (plain : Identifier.isPlain given.1 = true) :
    let found := attributeOf (fieldOf given.1 (scalarOf given.2) position)
    Identifier.isPlain found.name = true ∧ CodePoint.ofChar '\n' ∉ found.comment := by
  refine ⟨Identifier.isPlain_attributeName given.1 plain, ?_⟩
  intro member
  change CodePoint.ofChar '\n' ∈ ("generated based on " : Text) ++ given.1 ++ " with type " ++
    (scalarOf given.2).label at member
  simp only [List.mem_append] at member
  rcases member with ((lead | own) | middle) | label
  · revert lead
    rw [Text.ofString_ofList]
    decide
  · exact Identifier.not_mem_of_isPlain given.1 plain _ (by decide) own
  · revert middle
    rw [Text.ofString_ofList]
    decide
  · revert label
    cases scalarOf given.2 <;> decide

/-- The remark of a declared field with a line feed behind its name goes on in a line of its own. -/
theorem isBrokenRemark_declared (core : Text) (type : Document) (position : Nat)
    (plain : Identifier.isPlain core = true) :
    IsBrokenRemark (attributeOf (fieldOf (core ++ [CodePoint.lineFeed]) (scalarOf type) position)) := by
  refine ⟨("generated based on " : Text) ++ core, ("ith type " : Text) ++ (scalarOf type).label, ?_, ?_⟩
  · rw [List.mem_append, not_or]
    constructor
    · rw [Text.ofString_ofList]
      decide
    · exact Identifier.not_mem_of_isPlain core plain _ (by decide)
  · have split : (" with type " : Text) = (" w" : Text) ++ ("ith type " : Text) := by
      simp [Text.ofString]
    change ("generated based on " : Text) ++ (core ++ [CodePoint.lineFeed]) ++ " with type " ++
      (scalarOf type).label = _
    rw [split, feed_eq]
    simp

theorem fieldsFrom_append (position : Nat) (first second : Fields Document) :
    fieldsFrom position (first ++ second) =
      fieldsFrom position first ++ fieldsFrom (position + first.length) second := by
  induction first generalizing position with
  | nil => rfl
  | cons field first ih =>
      rw [List.cons_append, fieldsFrom, fieldsFrom, ih, List.length_cons, List.cons_append,
        Nat.add_assoc, Nat.add_comm 1]

end Fields

section Event

variable (event : RawEvent) (accepted : Validation.AcceptsEvent event)

include accepted

theorem isQuiet_classOf : IsQuiet (classOf event) := by
  constructor
  · rcases plain_or_broken event.name accepted.nameUsable with plain | ⟨core, plain, named⟩
    · exact ⟨event.name, [], plain, (List.append_nil _).symm⟩
    · exact ⟨core, [CodePoint.lineFeed], plain, named⟩
  · intro point member
    have quotes := EventClass.quotes_not_mem_safeLabel event.typeLabel
    constructor
    · rintro rfl
      exact quotes.1 member
    · rintro rfl
      exact quotes.2 member

omit accepted in
theorem className_of_feed (core : Text) (plain : Identifier.isPlain core = true)
    (named : event.name = core ++ [CodePoint.lineFeed]) : IsBrokenName (classOf event).name := by
  obtain ⟨front, frontPlain, shape⟩ := Identifier.camelCase_concat core plain
  refine ⟨front, frontPlain, ?_⟩
  change Identifier.camelCase event.name ++ ("Event" : Text) = _
  rw [named, shape, feed_eq]
  simp

/-- The class name of an accepted event is plain or broken, as its name is. -/
theorem className_cases :
    Identifier.isPlain (classOf event).name = true ∨ IsBrokenName (classOf event).name := by
  rcases plain_or_broken event.name accepted.nameUsable with plain | ⟨core, plain, named⟩
  · exact .inl (isPlain_className event plain).1
  · exact .inr (className_of_feed event core plain named)

omit accepted in
/-- The attributes of an event with plain fields are plain, and their remarks stay in their lines. -/
theorem attributes_plain
    (fieldsPlain : ∀ field ∈ event.typeMapping, Identifier.isPlain field.1 = true) :
    ∀ found ∈ (classOf event).attributes,
      (Identifier.isPlain found.name = true ∧ Identifier.isPlain found.generator = true) ∧
        CodePoint.ofChar '\n' ∉ found.comment := by
  intro found member
  rw [attributes_classOf_eq] at member
  obtain ⟨field, fieldMember, rfl⟩ := List.mem_map.mp member
  have generator := (generatorNames_named _ (mem_generatorNames event field fieldMember)).1
  rcases List.mem_append.mp fieldMember with declared | creation
  · obtain ⟨given, sorted, place, rfl⟩ := mem_fieldsFrom _ _ _ declared
    have givenMember := (Validation.sortFields_perm event.typeMapping).mem_iff.mp sorted
    obtain ⟨name, comment⟩ := attributeOf_declared given place (fieldsPlain given givenMember)
    exact ⟨⟨name, generator⟩, comment⟩
  · rw [List.mem_singleton.mp creation] at generator ⊢
    have created : Identifier.isPlain Entity.creationColumn = true := by decide
    refine ⟨⟨created, generator⟩, ?_⟩
    change CodePoint.ofChar '\n' ∉ ("added by the generator so all types have created_at" : Text)
    rw [Text.ofString_ofList]
    decide

/-- The first field in order whose name is not plain has a name that ends with a line feed. -/
theorem exists_first_broken
    (broken : ¬∀ field ∈ event.typeMapping, Identifier.isPlain field.1 = true) :
    ∃ before core type after, Validation.sortFields event.typeMapping =
        before ++ (core ++ [CodePoint.lineFeed], type) :: after ∧ Identifier.isPlain core = true ∧
      ∀ other ∈ before, Identifier.isPlain other.1 = true := by
  have perm := Validation.sortFields_perm event.typeMapping
  cases found : (Validation.sortFields event.typeMapping).find? fun field =>
      !Identifier.isPlain field.1 with
  | none =>
      refine absurd (fun field member => ?_) broken
      simpa using List.find?_eq_none.mp found field (perm.mem_iff.mpr member)
  | some given =>
      obtain ⟨notPlain, before, after, sorted, earlier⟩ := List.find?_eq_some_iff_append.mp found
      obtain ⟨name, type⟩ := given
      have member : (name, type) ∈ event.typeMapping :=
        perm.mem_iff.mp (sorted ▸ List.mem_append_right _ (List.mem_cons_self ..))
      rcases plain_or_broken name (accepted.fieldsUsable _ member) with plain | ⟨core, plain, rfl⟩
      · simp [plain] at notPlain
      · exact ⟨before, core, type, after, sorted, plain, by simpa using earlier⟩

/-- The class of an accepted event is passed if all names of the event are plain, and breaks the
tokens otherwise. -/
theorem classOf_cases :
    (Identifier.isPlain event.name = true ∧
        ∀ field ∈ event.typeMapping, Identifier.isPlain field.1 = true) ∧ IsPassed (classOf event) ∨
      IsBreaking (classOf event) ∧ IsCut (classOf event) := by
  have quiet := isQuiet_classOf event accepted
  by_cases fieldsPlain : ∀ field ∈ event.typeMapping, Identifier.isPlain field.1 = true
  · have attributes := attributes_plain event fieldsPlain
    rcases plain_or_broken event.name accepted.nameUsable with plain | ⟨core, plain, named⟩
    · exact .inl ⟨⟨plain, fieldsPlain⟩, isPlainClass_classOf event accepted plain fieldsPlain, quiet,
        fun found member => (attributes found member).2⟩
    · have broken := className_of_feed event core plain named
      refine .inr ⟨fun blocks isBetween => ?_, isCut_of_name _ broken⟩
      exact breaks_class_of_name _ blocks isBetween quiet broken
        (fun found member => (attributes found member).1)
        fun found member => (attributes found member).2
  · -- That field has the first broken remark.
    obtain ⟨before, core, type, after, sorted, corePlain, earlier⟩ :=
      exists_first_broken event accepted fieldsPlain
    have attributes : (classOf event).attributes =
        (fieldsFrom 0 before).map attributeOf ++
          attributeOf (fieldOf (core ++ [CodePoint.lineFeed]) (scalarOf type) before.length) ::
            ((fieldsFrom (before.length + 1) after).map attributeOf ++
              [attributeOf (creationAt event.typeMapping.length)]) := by
      rw [attributes_classOf_eq, fieldsOf, sorted, fieldsFrom_append, Nat.zero_add, fieldsFrom]
      simp
    have front : ∀ found ∈ (fieldsFrom 0 before).map attributeOf,
        Identifier.isPlain found.name = true ∧ CodePoint.ofChar '\n' ∉ found.comment := by
      intro found foundMember
      obtain ⟨field, fieldMember, rfl⟩ := List.mem_map.mp foundMember
      obtain ⟨other, otherMember, place, rfl⟩ := mem_fieldsFrom _ _ _ fieldMember
      exact attributeOf_declared other place (earlier other otherMember)
    have broken := isBrokenRemark_declared core type before.length corePlain
    refine .inr ⟨fun blocks isBetween => ?_, isCut_of_remark _ _ (by rw [attributes]; simp) broken⟩
    exact breaks_class_of_remark _ blocks isBetween quiet (className_cases event accepted) _ _ _
      attributes (fun found member => (front found member).1)
      (fun found member => (front found member).2) broken

end Event

end Compilation

end EventForge
