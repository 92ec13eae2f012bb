import EventForge.Proofs.Schema.Compilation
import EventForge.Proofs.Schema.Identifier

/-!
# Looking up entities and fields

An entity goes by its declared name and by the one in camel case, a field by its column and by its
attribute.  Deriving a name once more changes nothing, so that two items that go by one name share
the derived name as well.  Validation refuses this, and every lookup finds the item that is meant.
-/

/-!
## Derived names are final
-/

namespace EventForge.Identifier

theorem toUpper_final (point : CodePoint) (ascii : point.val < 128) :
    ∃ upper : CodePoint, point.toUpper = [upper] ∧ upper.toUpper = [upper] ∧
      (point.val ≠ 95 → upper.val ≠ 95) := by
  obtain ⟨upper, written, value⟩ := CodePoint.toUpper_ascii point ascii
  have bound : upper.val < 128 ∧ ¬(97 ≤ upper.val ∧ upper.val ≤ 122) := by
    split at value <;> omega
  obtain ⟨again, writtenAgain, valueAgain⟩ := CodePoint.toUpper_ascii upper bound.1
  rw [if_neg bound.2] at valueAgain
  rw [Fin.ext valueAgain] at writtenAgain
  exact ⟨upper, written, writtenAgain, by split at value <;> omega⟩

/-- Whether a text is what capitalized parts make without underscores between them. -/
def IsCapitalized (text : Text) : Prop :=
  capitalize text = text ∧ ∀ point ∈ text, point.val ≠ 95

theorem isCapitalized_capitalize (part : Text) (ascii : part.IsAscii)
    (apart : ∀ point ∈ part, point.val ≠ 95) : IsCapitalized (capitalize part) := by
  cases part with
  | nil => exact ⟨rfl, by simp [capitalize]⟩
  | cons first rest =>
      obtain ⟨upper, written, final, other⟩ := toUpper_final first (ascii first (by simp))
      have shape : capitalize (first :: rest) = upper :: rest := by
        rw [capitalize, written]
        rfl
      rw [shape]
      refine ⟨by rw [capitalize, final]; rfl, ?_⟩
      intro point member
      rcases List.mem_cons.mp member with rfl | later
      · exact other (apart first (by simp))
      · exact apart point (by simp [later])

/-- A capitalized text stays so, whatever comes behind it. -/
theorem IsCapitalized.append {text rest : Text} (front : IsCapitalized text) (inhabited : text ≠ [])
    (apart : ∀ point ∈ rest, point.val ≠ 95) : IsCapitalized (text ++ rest) := by
  cases text with
  | nil => exact absurd rfl inhabited
  | cons first others =>
      obtain ⟨own, ownApart⟩ := front
      have upper : first.toUpper = [first] :=
        List.append_cancel_right (own.trans (List.singleton_append ..).symm)
      refine ⟨by rw [List.cons_append, capitalize, upper]; rfl, ?_⟩
      intro point member
      rcases List.mem_append.mp member with early | late
      · exact ownApart point early
      · exact apart point late

theorem isCapitalized_flatten (parts : List Text)
    (each : ∀ part ∈ parts, part ≠ [] ∧ part.IsAscii ∧ ∀ point ∈ part, point.val ≠ 95) :
    IsCapitalized (parts.map capitalize).flatten := by
  induction parts with
  | nil => exact ⟨rfl, by simp⟩
  | cons part parts ih =>
      obtain ⟨inhabited, ascii, apart⟩ := each part (by simp)
      have others := ih fun other member => each other (by simp [member])
      refine (isCapitalized_capitalize part ascii apart).append ?_ others.2
      cases part with
      | nil => exact absurd rfl inhabited
      | cons first rest =>
          obtain ⟨upper, written, _⟩ := toUpper_final first (ascii first (by simp))
          rw [capitalize, written]
          exact List.cons_ne_nil _ _

/-- A joined name with an underscore in front of it where it is empty or begins with a digit. -/
def guarded : Text → Text
  | [] => "_"
  | first :: rest => if first.isDigit then ("_" : Text) ++ (first :: rest) else first :: rest

theorem camelCase_eq (name : Text) :
    camelCase name =
      guarded (((name.splitAt '_').filter fun part => !part.isEmpty).map capitalize).flatten := by
  unfold camelCase
  dsimp only
  generalize (((name.splitAt '_').filter fun part => !part.isEmpty).map capitalize).flatten = joined
  cases joined <;> rfl

/-- A capitalized text, guarded or not, is its own name in camel case. -/
theorem camelCase_guarded (text : Text) (capitalized : IsCapitalized text) :
    camelCase (guarded text) = guarded text := by
  obtain ⟨own, apart⟩ := capitalized
  have absent : CodePoint.ofChar '_' ∉ text := fun member => apart _ member rfl
  have whole := Text.splitAt_of_not_mem '_' text absent
  cases text with
  | nil => decide
  | cons first rest =>
      have behind : Text.splitAt '_' (("_" : Text) ++ (first :: rest)) = [[], first :: rest] := by
        change Text.splitAt '_' (CodePoint.ofChar '_' :: first :: rest) = _
        rw [Text.splitAt, if_pos rfl, whole]
      have same : Text.splitAt '_' (guarded (first :: rest)) = [first :: rest] ∨
          Text.splitAt '_' (guarded (first :: rest)) = [[], first :: rest] := by
        rw [guarded]
        split
        · exact .inr behind
        · exact .inl whole
      rw [camelCase_eq]
      rcases same with split | split <;> simp [split, own]

/-- A name in camel case is its own name in camel case. -/
theorem camelCase_camelCase (name : Text) (ascii : name.IsAscii) :
    camelCase (camelCase name) = camelCase name := by
  rw [camelCase_eq name]
  apply camelCase_guarded
  apply isCapitalized_flatten
  intro part member
  obtain ⟨split, inhabited⟩ := List.mem_filter.mp member
  have inside := Text.mem_splitAt '_' name part split
  refine ⟨by simpa using inhabited, fun point own => ascii point (inside point own).1, ?_⟩
  intro point own same
  exact (inside point own).2 (Fin.ext same)

theorem markWords_of_small (inWord : Bool) (text : Text)
    (small : ∀ point ∈ text, point.isAsciiUpper = false) : markWords inWord text = text := by
  fun_induction markWords inWord text <;> simp_all

theorem markCapitals_of_small (text : Text)
    (small : ∀ point ∈ text, point.isAsciiUpper = false) : markCapitals text = text := by
  fun_induction markCapitals text <;> simp_all

theorem toAsciiLower_of_small (text : Text)
    (small : ∀ point ∈ text, point.isAsciiUpper = false) : text.toAsciiLower = text := by
  rw [Text.toAsciiLower, List.map_congr_left (g := id), List.map_id]
  intro point member
  rw [CodePoint.toAsciiLower, small point member, if_neg Bool.false_ne_true, id]

theorem mergeUnderscores_mergeUnderscores (text : Text) :
    mergeUnderscores (mergeUnderscores text) = mergeUnderscores text := by
  fun_induction mergeUnderscores text with
  | case1 => rfl
  | case2 point => rfl
  | case3 point next rest both ih => exact ih
  | case4 point next rest apart ih =>
      -- The merged rest still begins with the point that is kept apart.
      obtain ⟨others, shape⟩ := List.head?_eq_some_iff.mp (head?_mergeUnderscores (next :: rest))
      rw [shape] at ih ⊢
      rw [mergeUnderscores, if_neg apart, ih]

/-- A text without capitals and without runs of underscores is its own name in snake case. -/
theorem snakeCase_of_settled (text : Text) (ascii : text.IsAscii)
    (small : ∀ point ∈ text, point.isAsciiUpper = false) (merged : mergeUnderscores text = text) :
    snakeCase text = text := by
  rw [snakeCase_ascii text ascii, markWords_of_small false text small,
    markCapitals_of_small text small, toAsciiLower_of_small text small, merged]

theorem small_snakeCase (name : Text) (ascii : name.IsAscii) :
    ∀ point ∈ snakeCase name, point.val < 128 ∧ point.isAsciiUpper = false := by
  intro point member
  rcases mem_snakeCase name ascii point member with rfl | ⟨source, own, rfl⟩
  · decide
  · have bound := ascii source own
    have value := CodePoint.toAsciiLower_val source
    rw [Bool.eq_false_iff, ne_eq, CodePoint.isAsciiUpper_iff]
    split at value <;> omega

theorem snakeCase_snakeCase (name : Text) (ascii : name.IsAscii) :
    snakeCase (snakeCase name) = snakeCase name := by
  have small := small_snakeCase name ascii
  apply snakeCase_of_settled _ (fun point member => (small point member).1)
    fun point member => (small point member).2
  rw [snakeCase_ascii name ascii, mergeUnderscores_mergeUnderscores]

/-- Names that no attribute has as they are. -/
def reservedNames : List Text := moduleWords ++ eventAttributes

theorem attributeName_cases (name : Text) :
    (snakeCase name ∈ reservedNames ∧ attributeName name = snakeCase name ++ ("_" : Text)) ∨
      (snakeCase name ∉ reservedNames ∧ attributeName name = snakeCase name) := by
  by_cases reserved : snakeCase name ∈ reservedNames
  · refine .inl ⟨reserved, ?_⟩
    simp only [reservedNames, List.mem_append] at reserved
    simp [attributeName, reserved]
  · refine .inr ⟨reserved, ?_⟩
    simp only [reservedNames, List.mem_append] at reserved
    simp [attributeName, reserved]

/-- Behind a reserved name an underscore stands alone. -/
theorem reservedNames_end : ∀ word ∈ reservedNames,
    word.endsWith "_" = false ∧ mergeUnderscores (word ++ ("_" : Text)) = word ++ ("_" : Text) := by
  let isEnded (word : Text) : Bool := !word.endsWith [CodePoint.ofChar '_'] &&
    mergeUnderscores (word ++ [CodePoint.ofChar '_']) == word ++ [CodePoint.ofChar '_']
  have words : ∀ word ∈ moduleWords, isEnded word = true :=
    Text.forall_mem_ofBytes isEnded _ (by decide +kernel)
  have attributes : ∀ word ∈ eventAttributes, isEnded word = true := by decide
  intro word member
  have ended := (List.mem_append.mp member).elim (words word) (attributes word)
  simp only [isEnded, Bool.and_eq_true, Bool.not_eq_true', beq_iff_eq] at ended
  rw [Text.ofString_ofList]
  exact ended

theorem append_underscore_not_reserved (front : Text) : front ++ ("_" : Text) ∉ reservedNames := by
  intro member
  have ends : Text.endsWith (front ++ ("_" : Text)) "_" = true := by
    rw [Text.endsWith, List.isSuffixOf_iff_suffix]
    exact List.suffix_append _ _
  rw [(reservedNames_end _ member).1] at ends
  cases ends

theorem attributeName_not_reserved (name : Text) : attributeName name ∉ reservedNames := by
  rcases attributeName_cases name with ⟨_, written⟩ | ⟨free, written⟩
  · rw [written]
    exact append_underscore_not_reserved _
  · rw [written]
    exact free

/-- An attribute is its own attribute. -/
theorem attributeName_attributeName (name : Text) (ascii : name.IsAscii) :
    attributeName (attributeName name) = attributeName name := by
  have final := snakeCase_snakeCase name ascii
  rcases attributeName_cases name with ⟨reserved, written⟩ | ⟨free, written⟩
  · have small := small_snakeCase name ascii
    have every : ∀ point ∈ snakeCase name ++ ("_" : Text),
        point.val < 128 ∧ point.isAsciiUpper = false := by
      intro point member
      rcases List.mem_append.mp member with own | under
      · exact small point own
      · rw [List.mem_singleton.mp under]
        decide
    have longer : snakeCase (snakeCase name ++ ("_" : Text)) = snakeCase name ++ ("_" : Text) :=
      snakeCase_of_settled _ (fun point member => (every point member).1)
        (fun point member => (every point member).2) (reservedNames_end _ reserved).2
    have free := append_underscore_not_reserved (snakeCase name)
    rw [written]
    rcases attributeName_cases (snakeCase name ++ ("_" : Text)) with ⟨again, _⟩ | ⟨_, same⟩
    · rw [longer] at again
      exact absurd again free
    · rw [same, longer]
  · rw [written]
    rcases attributeName_cases (snakeCase name) with ⟨again, _⟩ | ⟨_, same⟩
    · rw [final] at again
      exact absurd again free
    · rw [same, final]

end EventForge.Identifier

/-!
## Lookups
-/

namespace EventForge

/-- If no two items share their derived name, the first item that goes by a name is the only one:
whatever name it is, deriving the derived name from it leads to the same one. -/
theorem find?_of_derived {Item : Type} (items : List Item) (derived declared : Item → Text)
    (derive : Text → Text) (distinct : (items.map derived).Nodup)
    (final : ∀ item ∈ items, derive (derived item) = derived item ∧
      derive (declared item) = derived item)
    (item : Item) (member : item ∈ items) (given : Text)
    (named : given = derived item ∨ given = declared item) :
    items.find? (fun other => given == derived other || given == declared other) = some item := by
  have leads : ∀ other ∈ items, given = derived other ∨ given = declared other →
      derive given = derived other := by
    rintro other otherMember (rfl | rfl)
    · exact (final other otherMember).1
    · exact (final other otherMember).2
  cases found : items.find? (fun other => given == derived other || given == declared other) with
  | none =>
      have absent := List.find?_eq_none.mp found item member
      simp only [Bool.or_eq_true, beq_iff_eq] at absent
      exact absurd named absent
  | some other =>
      have otherMember := List.mem_of_find?_eq_some found
      have goesBy := List.find?_some found
      simp only [Bool.or_eq_true, beq_iff_eq] at goesBy
      have same : derived other = derived item :=
        (leads other otherMember goesBy).symm.trans (leads item member named)
      rw [List.inj_on_of_nodup_map distinct otherMember member same]

/-- Whether the names in an entity are unambiguous. -/
structure Entity.IsUnambiguous (entity : Entity) : Prop where
  attributes : (entity.fields.map fun field => field.name).Nodup
  /-- No two columns are the same for a database, which ignores the case of ASCII letters. -/
  columns : (entity.fields.map fun field => field.declaredName.toAsciiLower).Nodup
  byAttribute : ∀ field ∈ entity.fields, entity.field? field.name = some field
  byColumn : ∀ field ∈ entity.fields, entity.field? field.declaredName = some field

/-- Whether the names in a compiled schema are unambiguous. -/
structure CompiledSchema.IsUnambiguous (schema : CompiledSchema) : Prop where
  classes : (schema.entities.map fun entity => entity.className).Nodup
  entities : ∀ entity ∈ schema.entities, entity.IsUnambiguous
  byDerivedName : ∀ entity ∈ schema.entities, schema.entity? entity.name = some entity
  byDeclaredName : ∀ entity ∈ schema.entities, schema.entity? entity.declaredName = some entity

namespace Compilation

section Event

variable (event : RawEvent) (accepted : Validation.AcceptsEvent event)

include accepted

/-- Both names of a field lead to its attribute. -/
theorem attributeName_of_mem_fieldsOf (field : Field) (member : field ∈ fieldsOf event) :
    Identifier.attributeName field.name = field.name ∧
      Identifier.attributeName field.declaredName = field.name := by
  rcases List.mem_append.mp member with declared | creation
  · obtain ⟨given, sorted, place, rfl⟩ := mem_fieldsFrom _ _ _ declared
    have usable := accepted.fieldsUsable given ((Validation.sortFields_perm _).mem_iff.mp sorted)
    exact ⟨Identifier.attributeName_attributeName given.1 (Identifier.isAscii_of_isUsable _ usable),
      rfl⟩
  · rw [List.mem_singleton.mp creation]
    exact ⟨Validation.attributeName_creationColumn, Validation.attributeName_creationColumn⟩

theorem isUnambiguous_entityOf : (entityOf event).IsUnambiguous := by
  have distinct := names_fieldsOf_nodup event accepted
  have found := find?_of_derived (fieldsOf event) Field.name Field.declaredName
    Identifier.attributeName distinct (attributeName_of_mem_fieldsOf event accepted)
  exact {
    attributes := distinct
    columns := columns_fieldsOf_nodup event accepted
    byAttribute := fun field member => found field member field.name (.inl rfl)
    byColumn := fun field member => found field member field.declaredName (.inr rfl) }

end Event

/-- Every name in the compiled form of an accepted schema stands for one item. -/
theorem names_resolve (schema : ValidatedSchema) (sourcePath : Option Text) :
    ∃ compiled, compile schema sourcePath = .ok compiled ∧ compiled.IsUnambiguous := by
  refine ⟨schemaOf schema.raw sourcePath, compile_eq schema sourcePath, ?_⟩
  have accepted := (Validation.errors_eq_nil_iff schema.raw).mp schema.valid
  have perm := Validation.sortEvents_perm schema.raw.events
  have ofEvent : ∀ entity ∈ (schemaOf schema.raw sourcePath).entities,
      ∃ event, Validation.AcceptsEvent event ∧ entity = entityOf event := by
    intro entity member
    obtain ⟨event, sorted, rfl⟩ := List.mem_map.mp member
    exact ⟨event, accepted.events event (perm.mem_iff.mp sorted), rfl⟩
  have distinct : ((schemaOf schema.raw sourcePath).entities.map fun entity => entity.name).Nodup := by
    rw [schemaOf, List.map_map]
    exact (perm.map _).nodup_iff.mpr accepted.classesDistinct
  have final : ∀ entity ∈ (schemaOf schema.raw sourcePath).entities,
      Identifier.camelCase entity.name = entity.name ∧
        Identifier.camelCase entity.declaredName = entity.name := by
    intro entity member
    obtain ⟨event, acceptedEvent, rfl⟩ := ofEvent entity member
    exact ⟨Identifier.camelCase_camelCase event.name
      (Identifier.isAscii_of_isUsable _ acceptedEvent.nameUsable), rfl⟩
  have found := find?_of_derived _ Entity.name Entity.declaredName
    Identifier.camelCase distinct final
  exact {
    classes := by
      have longer : (fun entity : Entity => entity.className) =
          (fun name : Text => name ++ ("Event" : Text)) ∘ fun entity => entity.name := rfl
      rw [longer, ← List.map_map]
      exact distinct.map fun _ _ same => List.append_cancel_right same
    entities := by
      intro entity member
      obtain ⟨event, acceptedEvent, rfl⟩ := ofEvent entity member
      exact isUnambiguous_entityOf event acceptedEvent
    byDerivedName := fun entity member => found entity member entity.name (.inl rfl)
    byDeclaredName := fun entity member => found entity member entity.declaredName (.inr rfl) }

end Compilation

end EventForge
