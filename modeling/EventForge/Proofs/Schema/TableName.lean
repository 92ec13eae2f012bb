import EventForge.Proofs.Module.Loading
import EventForge.Proofs.Sql.Spelling

/-!
# Names in statements

A name that can stand in a statement without quotes is a plain identifier that the database leaves
free.  Beyond these, names with a line feed behind a plain identifier are accepted.  A statement does
not tell the two forms of a name from each other, nor capitals from small letters, so an accepted
schema can use one name of the database twice, but only in the two forms.
-/

namespace EventForge

namespace SqlToken

/-- The name that a text is in a statement, if it is a word and no more; case plays no part. -/
def nameIn? (text : Text) : Option Text :=
  match ofText text with
  | [token] => if token.kind = .word then some token.written.toAsciiLower else none
  | _ => none

/-- A plain identifier is one word. -/
theorem ofText_plain (core : Text) (plain : Identifier.isPlain core = true) :
    ofText core = [ofWord [] core] := by
  have spelled : Spells [ofWord [] core] := .word (.inl rfl) plain (by simp [EndsWord]) .nil
  have text : spell [ofWord [] core] = core := by simp [ofWord]
  rw [← text, ofText_spell _ spelled, text]

/-- A line feed behind a word is a blank. -/
theorem ofText_lineFeed (core : Text) (plain : Identifier.isPlain core = true) :
    ofText (core ++ [CodePoint.lineFeed]) = [ofWord [] core] := by
  have stops : StopsWord [CodePoint.lineFeed] := by
    intro point head
    cases head
    decide
  have scanned := scan_token core.length (ofWord [] core) [CodePoint.lineFeed] (.inl rfl)
    (beginsToken_of_isPlain core _ plain) (tokenAt_word core _ plain stops)
  have behind : ∀ fuel, scan fuel [CodePoint.lineFeed] = [] := by
    intro fuel
    cases fuel <;> rfl
  rw [ofText, List.length_append, List.length_singleton]
  exact scanned.trans (by rw [behind])

theorem nameIn?_plain (core : Text) (plain : Identifier.isPlain core = true) :
    nameIn? core = some core.toAsciiLower ∧
      nameIn? (core ++ [CodePoint.lineFeed]) = some core.toAsciiLower := by
  simp [nameIn?, ofText_plain core plain, ofText_lineFeed core plain, ofWord]

end SqlToken

namespace Identifier

/-- Whether a name can stand in a statement without quotes: no word that the database reserves, and
no name that it keeps for itself, in any case. -/
structure IsSafe (name : Text) : Prop where
  plain : isPlain name = true
  free : name.toAsciiLower ∉ databaseWords
  own : name.toAsciiLower.startsWith "sqlite_" = false

/-- Whether a name is a plain identifier with a line feed behind it that the database does not keep
for itself.  It may well reserve the word in it. -/
def IsBroken (name : Text) : Prop :=
  ∃ core, isPlain core = true ∧ core.toAsciiLower.startsWith "sqlite_" = false ∧
    name = core ++ [CodePoint.lineFeed]

theorem databaseWords_plain : ∀ word ∈ databaseWords, isPlain word = true :=
  Text.forall_mem_ofBytes isPlain _ (by decide +kernel)

/-- A line feed at the end of a name is no part of how it begins. -/
theorem startsWith_lineFeed (core : Text) :
    (Text.toAsciiLower (core ++ [CodePoint.lineFeed])).startsWith "sqlite_" =
      core.toAsciiLower.startsWith "sqlite_" := by
  have lowered : Text.toAsciiLower (core ++ [CodePoint.lineFeed]) =
      core.toAsciiLower ++ [CodePoint.lineFeed] := Text.toAsciiLower_append ..
  rw [Bool.eq_iff_iff, Text.startsWith, Text.startsWith, List.isPrefixOf_iff_prefix,
    List.isPrefixOf_iff_prefix, lowered, List.prefix_concat_iff]
  refine or_iff_right fun whole => not_mem_of_isPlain "sqlite_" (by decide) CodePoint.lineFeed
    (by decide) ?_
  rw [whole]
  exact List.mem_append_right _ (.head _)

theorem isUsable_iff_isSafe_or_isBroken (name : Text) :
    isUsable name = true ↔ IsSafe name ∨ IsBroken name := by
  rw [isUsable_iff, isIdentifierText_iff]
  constructor
  · rintro ⟨plain | ⟨core, plain, rfl⟩, free, own⟩
    · exact .inl ⟨plain, free, own⟩
    · rw [startsWith_lineFeed] at own
      exact .inr ⟨core, plain, own, rfl⟩
  · rintro (⟨plain, free, own⟩ | ⟨core, plain, own, rfl⟩)
    · exact ⟨.inl plain, free, own⟩
    · -- No reserved word has a line feed, so the word in the name is not looked up.
      refine ⟨.inr ⟨core, plain, rfl⟩, fun reserved => ?_, (startsWith_lineFeed core).trans own⟩
      apply not_mem_of_isPlain _ (databaseWords_plain _ reserved) CodePoint.lineFeed (by decide)
      rw [Text.toAsciiLower_append]
      exact List.mem_append_right _ (.head _)

/-- Whether a name ends with a line feed. -/
def EndsLine (name : Text) : Prop := name.getLast? = some CodePoint.lineFeed

/-- The two forms of a usable name. -/
theorem forms_of_isUsable (name : Text) (usable : isUsable name = true) :
    ∃ core, SqlToken.nameIn? name = some core.toAsciiLower ∧
      ((name = core ∧ ¬EndsLine name) ∨ (name = core ++ [CodePoint.lineFeed] ∧ EndsLine name)) := by
  rcases Compilation.plain_or_broken name usable with plain | ⟨core, plain, rfl⟩
  · refine ⟨name, (SqlToken.nameIn?_plain name plain).1, .inl ⟨rfl, fun ends => ?_⟩⟩
    exact not_mem_of_isPlain name plain _ (by decide) (List.mem_of_getLast? ends)
  · exact ⟨core, (SqlToken.nameIn?_plain core plain).2, .inr ⟨rfl, List.getLast?_concat⟩⟩

/-- Usable names in one form that are the same name in statements differ in case alone. -/
theorem fold_of_nameIn? (first second : Text) (usable : isUsable first = true)
    (otherUsable : isUsable second = true) (same : SqlToken.nameIn? first = SqlToken.nameIn? second)
    (alike : EndsLine first ↔ EndsLine second) : first.fold = second.fold := by
  rw [Text.fold_ascii first (isAscii_of_isUsable first usable),
    Text.fold_ascii second (isAscii_of_isUsable second otherUsable)]
  obtain ⟨core, named, form⟩ := forms_of_isUsable first usable
  obtain ⟨other, otherNamed, otherForm⟩ := forms_of_isUsable second otherUsable
  rw [named, otherNamed, Option.some.injEq] at same
  rcases form with ⟨rfl, unended⟩ | ⟨rfl, ends⟩ <;>
    rcases otherForm with ⟨rfl, otherUnended⟩ | ⟨rfl, otherEnds⟩
  · exact same
  · exact absurd (alike.mpr otherEnds) unended
  · exact absurd (alike.mp ends) otherUnended
  · rw [Text.toAsciiLower_append, Text.toAsciiLower_append, same]

end Identifier

namespace Validation

open Identifier

/-- Whether two names are different names in statements, unless just one of them ends with a line
feed. -/
def AreApart (first second : Text) : Prop :=
  SqlToken.nameIn? first = SqlToken.nameIn? second → ¬(EndsLine first ↔ EndsLine second)

theorem areApart_of_fold (names : List Text) (usable : ∀ name ∈ names, isUsable name = true)
    (distinct : (names.map Text.fold).Nodup) : names.Pairwise AreApart := by
  rw [List.Nodup, List.pairwise_map] at distinct
  refine distinct.imp_of_mem fun firstMember secondMember apart same alike => ?_
  exact apart (fold_of_nameIn? _ _ (usable _ firstMember) (usable _ secondMember) same alike)

/-- Accepted names are safe but for those that end with a line feed.  In an accepted schema no two
events share a table and no two fields a column, unless the names of both are the same but for case
and a line feed at the end of just one of them. -/
theorem accepted_names_are_apart (schema : RawSchema) (valid : errors schema = .ok []) :
    (∀ name, isUsable name = true ↔ IsSafe name ∨ IsBroken name) ∧
      (∀ name, isUsable name = true → ∃ core, SqlToken.nameIn? name = some core.toAsciiLower ∧
        (name = core ∨ name = core ++ [CodePoint.lineFeed])) ∧
      (schema.events.map RawEvent.name).Pairwise AreApart ∧
      ∀ event ∈ schema.events,
        (Entity.creationColumn :: event.typeMapping.map Prod.fst).Pairwise AreApart := by
  have accepted := (errors_eq_nil_iff schema).mp valid
  refine ⟨isUsable_iff_isSafe_or_isBroken, ?_, ?_, ?_⟩
  · intro name usable
    obtain ⟨core, named, form⟩ := forms_of_isUsable name usable
    exact ⟨core, named, form.imp And.left And.left⟩
  · apply areApart_of_fold
    · intro name member
      obtain ⟨event, isEvent, rfl⟩ := List.mem_map.mp member
      exact (accepted.events event isEvent).nameUsable
    · rw [List.map_map]
      exact accepted.tablesDistinct
  · intro event isEvent
    have acceptedEvent := accepted.events event isEvent
    apply areApart_of_fold
    · intro name member
      rcases List.mem_cons.mp member with rfl | member
      · exact isUsable_created_at
      · obtain ⟨field, isField, rfl⟩ := List.mem_map.mp member
        exact acceptedEvent.fieldsUsable field isField
    · -- The column of creation times is no declared field, so it is compared on its own.
      have creation : Entity.creationColumn.fold = Entity.creationColumn := by decide
      rw [List.map_cons, List.map_map, creation, List.nodup_cons]
      refine ⟨fun member => ?_, acceptedEvent.columnsDistinct⟩
      obtain ⟨field, isField, same⟩ := List.mem_map.mp member
      exact (acceptedEvent.creationFree field isField).2.2 same

/-- The schema of an event in both forms of its name. -/
def twinSchema : RawSchema := Compilation.timedSchema ["login", "login\n"]

theorem isUsable_login_lineFeed : isUsable "login\n" = true :=
  isUsable_of_lower _ (by decide) (by decide) (by simp [databaseWords, Text.ofString_inj])
    (by decide)

theorem accepts_twinSchema : Accepts twinSchema :=
  Compilation.accepts_timedSchema _ (by simp [isUsable_login, isUsable_login_lineFeed]) (by decide)
    (by decide)

theorem accepted_names_are_apart_twins :
    errors twinSchema = .ok [] ∧ AreApart "login" "login\n" := by
  have valid := (errors_eq_nil_iff _).mpr accepts_twinSchema
  obtain ⟨_, _, tables, _⟩ := accepted_names_are_apart twinSchema valid
  exact ⟨valid, (List.pairwise_cons.mp tables).1 _ (.head _)⟩

/-- A name with a line feed behind it is accepted, and so are two events of one table. -/
theorem twinSchema_shares_table :
    isUsable "login\n" = true ∧ ¬IsSafe "login\n" ∧ errors twinSchema = .ok [] ∧
      twinSchema.events.map RawEvent.name = (["login", "login\n"] : List Text) ∧
      SqlToken.nameIn? "login" = some "login" ∧ SqlToken.nameIn? "login\n" = some "login" := by
  refine ⟨isUsable_login_lineFeed, fun safe => ?_, (errors_eq_nil_iff _).mpr accepts_twinSchema, rfl,
    by decide, by decide⟩
  exact absurd safe.plain (by decide)

end Validation

end EventForge
