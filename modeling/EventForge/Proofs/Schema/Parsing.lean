import EventForge.Proofs.Document.Basic
import EventForge.Proofs.Outcome
import EventForge.Schema.Source
import Mathlib.Data.List.Dedup
import Mathlib.Data.List.Nodup

/-!
# Reading declarations

A document that can be shown is read as a schema or refused for its shape, and the path that it came
from plays no part in it.
-/

namespace EventForge.Source

/-- Whether every declared type of an event can be shown. -/
def ShowsTypes (event : RawEvent) : Prop :=
  ∀ field ∈ event.typeMapping, field.2.isDisplayable = true

/-- Whether a fault is about the shape of a source. -/
def IsMalformed (fault : ShapeFault) : Prop :=
  ∃ malformation, fault = .malformed malformation

/-- Entries under the texts of their keys, behind the fields found so far. -/
def keyed (entries : List (Document × Document)) (fields : Fields Document) : Fields Document :=
  entries.foldl (fun fields entry => Fields.insert entry.1.plain entry.2 fields) fields

/-- The fields under the texts of keys are found exactly if all these texts are. -/
theorem textKeys_eq_ok_iff (entries : List (Document × Document)) (fields : Fields Document) :
    textKeys entries = .ok fields ↔
      (∀ entry ∈ entries, entry.1.isDisplayable = true) ∧ fields = keyed entries [] := by
  unfold textKeys keyed
  generalize ([] : Fields Document) = found
  induction entries generalizing found with
  | nil => exact ⟨fun same => ⟨by simp, (Except.ok.inj same).symm⟩, fun same => by rw [same.2]; rfl⟩
  | cons entry entries ih =>
      rw [List.foldlM_cons, List.foldl_cons, List.forall_mem_cons, and_assoc]
      by_cases keyShown : entry.1.isDisplayable = true
      · rw [Document.plain?_of_isDisplayable entry.1 keyShown, Outcome.ok_bind, pure_bind, ih]
        simp only [keyShown, true_and]
      · simp [Document.plain?, keyShown]

theorem mem_keyed (entries : List (Document × Document)) (fields : Fields Document)
    (field : Text × Document) (member : field ∈ keyed entries fields) :
    field ∈ fields ∨ ∃ entry ∈ entries, field = (entry.1.plain, entry.2) := by
  induction entries generalizing fields with
  | nil => exact Or.inl member
  | cons entry entries ih =>
      rcases ih _ member with inserted | ⟨other, otherMember, rfl⟩
      · rcases Fields.mem_insert _ _ _ _ inserted with rfl | old
        · exact Or.inr ⟨entry, by simp, rfl⟩
        · exact Or.inl old
      · exact Or.inr ⟨other, by simp [otherMember], rfl⟩

/-- Entries whose keys have distinct texts become a field each. -/
theorem keyed_eq_map (entries : List (Document × Document))
    (distinct : (entries.map fun entry => entry.1.plain).Nodup) :
    keyed entries [] = entries.map fun entry => (entry.1.plain, entry.2) := by
  have behind (fields : Fields Document)
      (fresh : ∀ entry ∈ entries, ∀ field ∈ fields, field.1 ≠ entry.1.plain) :
      keyed entries fields = fields ++ entries.map fun entry => (entry.1.plain, entry.2) := by
    induction entries generalizing fields with
    | nil => simp [keyed]
    | cons entry entries ih =>
        obtain ⟨own, others⟩ := List.nodup_cons.mp distinct
        have inserted := Fields.insert_of_fresh entry.1.plain entry.2 fields (fresh entry (by simp))
        have later := ih others (Fields.insert entry.1.plain entry.2 fields) (by
          intro other member field found
          rw [inserted] at found
          rcases List.mem_append.mp found with old | new
          · exact fresh other (by simp [member]) field old
          · obtain rfl := List.mem_singleton.mp new
            exact fun same => own (List.mem_map.mpr ⟨other, member, same.symm⟩))
        rw [inserted] at later
        rw [keyed, List.foldl_cons, inserted]
        exact later.trans (by simp)
  simpa using behind [] (by simp)

theorem labelOf_ok (entries : List (Document × Document))
    (shown : ∀ entry ∈ entries, entry.1.isDisplayable = true ∧ entry.2.isDisplayable = true) :
    ∃ label, labelOf entries = .ok label := by
  unfold labelOf
  cases found : Document.lookup? "type" entries with
  | none => exact ⟨[], rfl⟩
  | some value =>
      obtain ⟨entry, member, rfl⟩ := Document.lookup?_mem _ _ _ found
      have valueShown := Document.plain?_of_isDisplayable entry.2 (shown entry member).2
      cases value : entry.2 with
      | null => exact ⟨[], rfl⟩
      | _ => rw [value] at valueShown; exact ⟨_, valueShown⟩

theorem declaredFields_shown (event : Text) (entries declared : List (Document × Document))
    (shown : ∀ entry ∈ entries, entry.1.isDisplayable = true ∧ entry.2.isDisplayable = true)
    (found : declaredFields event entries = .ok declared) :
    ∀ entry ∈ declared, entry.1.isDisplayable = true ∧ entry.2.isDisplayable = true := by
  unfold declaredFields at found
  cases looked : Document.lookup? "type_mapping" entries with
  | none =>
      obtain rfl : [] = declared := by simpa [looked] using found
      simp
  | some value =>
      obtain ⟨entry, member, rfl⟩ := Document.lookup?_mem _ _ _ looked
      rw [looked] at found
      cases opens : entry.2.opened with
      | mapping inner =>
          obtain rfl : inner = declared := by simpa [opens] using found
          exact Document.isDisplayable_of_mem_opened entry.2 inner (shown entry member).2 opens
      | null =>
          obtain rfl : [] = declared := by simpa [opens] using found
          simp
      | _ => simp [opens] at found

/-- Whether entries are those of a mapping from texts. -/
structure HasTextKeys (entries : List (Document × Document)) : Prop where
  texts : ∀ entry ∈ entries, ∃ name, entry.1 = .text name
  distinct : (entries.map Prod.fst).Nodup

theorem HasTextKeys.of_perm {first second : List (Document × Document)} (keys : HasTextKeys first)
    (perm : first.Perm second) : HasTextKeys second where
  texts entry member := keys.texts entry (perm.mem_iff.mpr member)
  distinct := (perm.map Prod.fst).nodup_iff.mp keys.distinct

/-- Distinct texts are distinct when they are shown. -/
theorem HasTextKeys.plain_nodup {entries : List (Document × Document)} (keys : HasTextKeys entries) :
    (entries.map fun entry => entry.1.plain).Nodup := by
  have shown : (entries.map fun entry => entry.1.plain) =
      (entries.map Prod.fst).map Document.plain := by
    rw [List.map_map]
    rfl
  rw [shown]
  refine List.Nodup.map_on ?_ keys.distinct
  intro first member second otherMember same
  obtain ⟨entry, entryMember, rfl⟩ := List.mem_map.mp member
  obtain ⟨other, otherEntry, rfl⟩ := List.mem_map.mp otherMember
  obtain ⟨name, text⟩ := keys.texts entry entryMember
  obtain ⟨otherName, otherText⟩ := keys.texts other otherEntry
  rw [text, otherText] at same ⊢
  exact congrArg Document.text same

/-- What a key and a definition have to be so that they are an event. -/
theorem parseEvent_eq_ok_iff (key definition : Document) (event : RawEvent) :
    parseEvent key definition = .ok event ↔
      key = .text event.name ∧ ∃ entries declared, definition.opened = .mapping entries ∧
        declaredFields event.name entries = .ok declared ∧
        labelOf entries = .ok event.typeLabel ∧ textKeys declared = .ok event.typeMapping := by
  cases key with
  | text name =>
      cases opens : definition.opened with
      | mapping entries =>
          simp only [parseEvent, opens, Outcome.bind_eq_ok_iff, Outcome.mapError_eq_ok_iff,
            Outcome.pure_eq_ok, Except.ok.injEq, Document.text.injEq, Document.mapping.injEq]
          constructor
          · rintro ⟨declared, found, label, labelled, fields, keyed, rfl⟩
            exact ⟨rfl, entries, declared, rfl, found, labelled, keyed⟩
          · rintro ⟨rfl, _, declared, rfl, found, labelled, keyed⟩
            exact ⟨declared, found, _, labelled, _, keyed, rfl⟩
      | _ => simp [parseEvent, opens]
  | _ => simp [parseEvent, Outcome.bind_eq_ok_iff]

theorem parseEvent_of_not_text (key definition : Document) (notText : ∀ name, key ≠ .text name)
    (keyShown : key.isDisplayable = true) :
    parseEvent key definition = .error (.malformed (.eventName key.display)) := by
  have shownAs := Document.display?_of_isDisplayable key keyShown
  cases key with
  | text name => exact absurd rfl (notText name)
  | _ => simp [parseEvent, shownAs]

theorem parseEvent_shown (key definition : Document) (keyShown : key.isDisplayable = true)
    (shown : definition.isDisplayable = true) :
    (∃ event, parseEvent key definition = .ok event ∧ ShowsTypes event) ∨
      ∃ fault, parseEvent key definition = .error fault ∧ IsMalformed fault := by
  cases key with
  | text name =>
      cases opens : definition.opened with
      | mapping entries =>
          have entriesShown := Document.isDisplayable_of_mem_opened definition entries shown opens
          obtain ⟨label, labelled⟩ := labelOf_ok entries entriesShown
          cases found : declaredFields name entries with
          | error malformation =>
              exact Or.inr ⟨.malformed malformation, by simp [parseEvent, opens, found], _, rfl⟩
          | ok declared =>
              have declaredShown := declaredFields_shown name entries declared entriesShown found
              have fields := (textKeys_eq_ok_iff declared _).mpr
                ⟨fun entry member => (declaredShown entry member).1, rfl⟩
              refine Or.inl ⟨{ name, typeLabel := label, typeMapping := keyed declared [] },
                by simp [parseEvent, opens, found, labelled, fields], ?_⟩
              intro field member
              rcases mem_keyed declared [] field member with old | ⟨entry, entryMember, rfl⟩
              · simp at old
              · exact (declaredShown entry entryMember).2
      | _ => exact Or.inr ⟨.malformed (.definition name), by simp [parseEvent, opens], _, rfl⟩
  | _ => exact Or.inr ⟨_, parseEvent_of_not_text _ definition (by simp) keyShown, _, rfl⟩

/-- A document that can be shown is read as a schema, or it is malformed. -/
theorem parse_shown (document : Document) (path : Option Text)
    (shown : document.isDisplayable = true) :
    (∃ raw, parse document path = .ok raw ∧ ∀ event ∈ raw.events, ShowsTypes event) ∨
      ∃ malformation, parse document path = .error (.malformed malformation) := by
  unfold parse
  cases opens : document.opened with
  | null => exact Or.inl ⟨_, rfl, by simp⟩
  | mapping entries =>
      have entriesShown := Document.isDisplayable_of_mem_opened document entries shown opens
      rcases Outcome.mapM_ok_or_error (fun entry => parseEvent entry.1 entry.2) ShowsTypes
          IsMalformed entries fun entry member =>
            parseEvent_shown entry.1 entry.2 (entriesShown entry member).1
              (entriesShown entry member).2 with
        ⟨events, computed, eventsShown⟩ | ⟨fault, failed, malformation, rfl⟩
      · exact Or.inl ⟨{ events, path }, by simp [computed], eventsShown⟩
      · exact Or.inr ⟨malformation, by simp [failed]⟩
  | _ => exact Or.inr ⟨.source, rfl⟩

/-- The path of a source is only passed on. -/
theorem parse_path (document : Document) (path other : Option Text) :
    parse document other = (parse document path).map fun raw => { raw with path := other } := by
  unfold parse
  cases document.opened with
  | null => rfl
  | mapping entries =>
      simp only []
      cases entries.mapM fun entry => parseEvent entry.1 entry.2 <;> rfl
  | _ => rfl

theorem path_of_parse {document : Document} {path : Option Text} {schema : RawSchema}
    (read : parse document path = .ok schema) : schema.path = path := by
  have moved := parse_path document path path
  rw [read] at moved
  rw [Except.ok.inj moved]

end EventForge.Source
