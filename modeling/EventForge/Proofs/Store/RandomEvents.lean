import EventForge.Proofs.Number.Rounding
import EventForge.Proofs.Store.Evolution

/-!
# Random events

A random event can be stored in the tables of its module, and comes back if and only if its time
fits the width of its field.  The values of the other fields always fit; the time is drawn around the
clock whatever its type is.
-/

namespace EventForge

open Outcome Compilation

/-!
## The clock

A clock whose milliseconds have 64 bits has few seconds.
-/

namespace Clock

open Binary64

theorem natAbs_nanoseconds_le (clock : Clock) (fits : Event.IsOfWidth clock.milliseconds 64) :
    clock.nanoseconds.natAbs ≤ twoTo 83 := by
  obtain ⟨least, most⟩ := fits
  have million : (tenTo 6 : Int) = 1000000 := rfl
  have half : (twoTo (64 - 1) : Int) = 9223372036854775808 := rfl
  have whole : twoTo 83 = 9671406556917033397649408 := rfl
  rw [milliseconds, million, Int.fdiv_eq_ediv_of_nonneg _ (by decide), half] at least most
  rw [whole]
  omega

/-- The exact value of a finite double, as a ratio without its sign. -/
theorem natAbs_ratio (negative : Bool) (significand : Nat) (exponent : Int) :
    (((ratio negative significand exponent).1.natAbs : Nat) : ℚ) /
      (ratio negative significand exponent).2 = (significand : ℚ) * 2 ^ exponent := by
  have scaled := scaleBinary_eq significand 1 exponent
  rw [Nat.cast_one, div_one] at scaled
  rw [← scaled]
  cases negative <;> simp [ratio]

theorem natAbs_seconds_le (clock : Clock) (fits : Event.IsOfWidth clock.milliseconds 64)
    (seconds : Int) (timed : clock.seconds? = some seconds) : seconds.natAbs ≤ twoTo 54 := by
  have bound := clock.natAbs_nanoseconds_le fits
  unfold seconds? timeBits? at timed
  cases first : rounded (clock.nanoseconds < 0) clock.nanoseconds.natAbs 1 with
  | nan => simp [first] at timed
  | infinite => simp [first] at timed
  | finite negative significand exponent =>
      simp only [first, Option.bind_eq_bind, Option.bind_some] at timed
      split at timed
      · rename_i sign digits power second
        obtain rfl := Option.some.inj timed
        refine natAbs_truncate_le sign digits power 54 (rounded_le _ _ _ 54 ?_ (by decide) ?_ _ _ _ second)
        · exact Nat.mul_pos (scaleBinary_pos significand 1 exponent Nat.one_pos) (by decide)
        · have large := rounded_le _ _ 1 83 Nat.one_pos (by decide) (by
            rw [Nat.cast_one, div_one, ← twoTo_cast]
            exact_mod_cast bound) negative significand exponent first
          rw [Nat.cast_mul, ← div_div, natAbs_ratio]
          calc (significand : ℚ) * 2 ^ exponent / (tenTo 9 : Nat)
              ≤ 2 ^ ((83 : Nat) : Int) / (tenTo 9 : Nat) := by gcongr
            _ ≤ 2 ^ ((54 : Nat) : Int) := by
                have thousandMillions : tenTo 9 = 1000000000 := rfl
                rw [thousandMillions, zpow_natCast, zpow_natCast]
                norm_num
      · cases timed

end Clock

/-!
## Drawing values
-/

/-- A number drawn below a bound is below it, by induction on the tries that are left. -/
theorem RandomSource.below_lt (source : RandomSource) (bound : Nat) (positive : 0 < bound) :
    (source.below bound).1 < bound := by
  have every (count tries : Nat) (source : RandomSource) :
      (drawBelow bound count source tries).1 < bound := by
    induction tries generalizing source with
    | zero => exact positive
    | succ tries ih =>
        rw [drawBelow]
        split
        · assumption
        · exact ih _
  exact every _ _ source

namespace Generator

/-- Whether a generator can make a value at a time. -/
def Makes (clock : Clock) (value : Int) : Generator → Prop
  | .integer => 0 ≤ value ∧ value < integerBound
  | .wideInteger => 0 ≤ value ∧ value < wideBound
  | .time => ∃ seconds, clock.seconds? = some seconds ∧
      seconds - jitter ≤ value ∧ value < seconds + jitter
  | .clock => value = clock.milliseconds

/-- Drawing goes on with what was drawn. -/
theorem bind_of_ok {First Second : Type} {drawing : Drawing First} {next : First → Drawing Second}
    {source later : RandomSource} {first : First} (made : drawing source = (.ok first, later)) :
    (drawing >>= next) source = next first later := by
  calc (drawing >>= next) source = ExceptT.bindCont next (drawing source).1 (drawing source).2 := rfl
    _ = next first later := by
      rw [made]
      rfl

theorem run_makes (clock : Clock) (seconds : Int) (timed : clock.seconds? = some seconds)
    (generator : Generator) (source : RandomSource) :
    ∃ value later, generator.run clock source = (.ok value, later) ∧ generator.Makes clock value := by
  have draws (bound : Nat) :
      draw bound source = (.ok (source.below bound).1, (source.below bound).2) := rfl
  cases generator with
  | integer =>
      have below := source.below_lt integerBound (by decide)
      exact ⟨_, _, bind_of_ok (draws integerBound), Int.natCast_nonneg _, by exact_mod_cast below⟩
  | wideInteger =>
      have below := source.below_lt wideBound (by decide)
      exact ⟨_, _, bind_of_ok (draws wideBound), Int.natCast_nonneg _, by exact_mod_cast below⟩
  | time =>
      have below := source.below_lt (2 * jitter) (by decide)
      refine ⟨seconds + (source.below (2 * jitter)).1 - jitter, (source.below (2 * jitter)).2, ?_,
        seconds, timed, ?_, ?_⟩
      · rw [run, randomTime, timed]
        exact bind_of_ok (draws (2 * jitter))
      · omega
      · have double : ((2 * jitter : Nat) : Int) = 2 * jitter := rfl
        omega
  | clock => exact ⟨_, _, rfl, rfl⟩

/-- A list of values is drawn one by one, by induction on those that are left. -/
theorem mapM_draws {Item Value : Type} (make : Item → Drawing Value) (Made : Item → Value → Prop)
    (items : List Item) (each : ∀ item ∈ items, ∀ source, ∃ value later,
      make item source = (.ok value, later) ∧ Made item value) (source : RandomSource) :
    ∃ values later, items.mapM make source = (.ok values, later) ∧
      List.Forall₂ Made items values := by
  induction items generalizing source with
  | nil => exact ⟨[], source, rfl, .nil⟩
  | cons item items ih =>
      obtain ⟨value, next, drawn, made⟩ := each item (by simp) source
      obtain ⟨values, later, rest, others⟩ := ih (fun other member => each other (by simp [member])) next
      refine ⟨value :: values, later, ?_, .cons made others⟩
      rw [List.mapM_cons, bind_of_ok drawn, bind_of_ok rest]
      rfl

end Generator

/-- The generator of a type makes values that fit the type. -/
theorem ScalarType.generator_fits (scalar : ScalarType) :
    ∃ generator, Generator.ofName? scalar.generator = some generator ∧
      ∀ clock value, generator.Makes clock value → Event.IsOfWidth value scalar.width := by
  have narrow : (Generator.integerBound : Int) ≤ twoTo 31 := by decide
  have wide : (Generator.wideBound : Int) ≤ twoTo 63 := by decide
  have wideFits (clock : Clock) (value : Int) (made : Generator.wideInteger.Makes clock value) :
      Event.IsOfWidth value 64 :=
    ⟨by have := made.1; omega, made.2.trans_le wide⟩
  cases scalar with
  | integer =>
      refine ⟨.integer, by decide, fun clock value made => ⟨?_, made.2.trans_le narrow⟩⟩
      have := made.1
      omega
  | timestamp => exact ⟨.wideInteger, by decide, wideFits⟩
  | bigint => exact ⟨.wideInteger, by decide, wideFits⟩

namespace Compilation

/-- The generator of each field: that of the time whatever its type is, and otherwise one whose
values fit the field. -/
theorem generator_of_mem_fieldsOf (event : RawEvent) (accepted : Validation.AcceptsEvent event)
    (field : Field) (member : field ∈ fieldsOf event) :
    ∃ generator, Generator.ofName? field.generator = some generator ∧
      (field.name = timeName → generator = .time) ∧
      (field.name ≠ timeName → ∀ clock value, Event.IsOfWidth clock.milliseconds 64 →
        generator.Makes clock value → Event.IsOfWidth value field.width) := by
  have timed : Generator.ofName? timeGenerator = some .time := by decide
  have created : Generator.ofName? creationGenerator = some .clock := by decide
  have apart : Entity.creationColumn ≠ timeName := by decide
  rcases List.mem_append.mp member with declared | creation
  · obtain ⟨given, sorted, place, rfl⟩ := mem_fieldsFrom _ _ _ declared
    have givenMember := (Validation.sortFields_perm event.typeMapping).mem_iff.mp sorted
    by_cases time : given.1 = timeName
    · refine ⟨.time, ?_, fun _ => rfl, fun other => absurd ?_ other⟩
      · simp only [fieldOf, time, beq_self_eq_true, if_true, timed]
      · simp only [fieldOf, time, Validation.attributeName_timeName]
    · have other : Identifier.attributeName given.1 ≠ timeName := by
        intro same
        obtain ⟨own, ownMember, named⟩ := accepted.hasTime
        have alike : Identifier.attributeName own.1 = timeName := by
          rw [named, Validation.attributeName_timeName]
        rw [List.inj_on_of_nodup_map accepted.attributesDistinct givenMember ownMember
          (same.trans alike.symm)] at time
        exact time named
      obtain ⟨generator, named, fits⟩ := (scalarOf given.2).generator_fits
      refine ⟨generator, ?_, fun same => absurd same other, fun _ clock value _ made =>
        fits clock value made⟩
      rw [fieldOf, beq_eq_false_iff_ne.mpr time]
      exact named
  · rw [List.mem_singleton.mp creation]
    refine ⟨.clock, created, fun same => absurd same apart, fun _ clock value fits made => ?_⟩
    rw [made]
    exact fits

/-- Whether a value can be drawn for a field. -/
def Draws (clock : Clock) (field : Field) (value : Int) : Prop :=
  ∃ generator, Generator.ofName? field.generator = some generator ∧ generator.Makes clock value

theorem integers_of_forall₂ {Entry : Type} {Made : Entry → Int → Prop} {entries : List Entry}
    {values : List Document} (each : List.Forall₂ (fun entry value =>
      ∃ integer, value = Document.integer integer ∧ Made entry integer) entries values) :
    ∃ integers : List Int, values = integers.map Document.integer ∧
      List.Forall₂ Made entries integers := by
  induction each with
  | nil => exact ⟨[], rfl, .nil⟩
  | cons own _ ih =>
      obtain ⟨integer, rfl, made⟩ := own
      obtain ⟨integers, rfl, others⟩ := ih
      exact ⟨integer :: integers, rfl, .cons made others⟩

/-- A random event has a value that can be drawn for each field. -/
theorem random_classOf (event : RawEvent) (accepted : Validation.AcceptsEvent event) (clock : Clock)
    (seconds : Int) (timed : clock.seconds? = some seconds) (source : RandomSource) :
    ∃ (integers : List Int) (later : RandomSource),
      Event.random (classOf event) clock source =
          (.ok { eventClass := classOf event, values := integers.map Document.integer }, later) ∧
        List.Forall₂ (Draws clock) (fieldsOf event) integers := by
  have each : ∀ field ∈ fieldsOf event, ∀ source, ∃ value later,
      Event.randomValue clock (attributeOf field) source = (.ok value, later) ∧
        ∃ integer, value = .integer integer ∧ Draws clock field integer := by
    intro field member source
    obtain ⟨generator, named, _⟩ := generator_of_mem_fieldsOf event accepted field member
    obtain ⟨value, later, drawn, made⟩ := generator.run_makes clock seconds timed source
    refine ⟨.integer value, later, ?_, value, rfl, generator, named, made⟩
    rw [Event.randomValue, show (attributeOf field).generator = field.generator from rfl, named]
    exact Generator.bind_of_ok drawn
  obtain ⟨values, later, drawn, made⟩ := Generator.mapM_draws
    (fun field => Event.randomValue clock (attributeOf field)) _ (fieldsOf event) each source
  obtain ⟨integers, rfl, draws⟩ := integers_of_forall₂ made
  refine ⟨integers, later, ?_, draws⟩
  rw [Event.random, attributes_classOf_eq, List.mapM_map]
  exact Generator.bind_of_ok drawn

end Compilation

/-!
## Events that are stored and retrieved

An event whose integers have 64 bits is stored, and comes back if and only if each of them has the
width of its field.
-/

namespace Event

theorem isOfWidth_wrapped (cell : Cell) (width : Nat) (known : width = 32 ∨ width = 64) :
    IsOfWidth (Codec.wrapped cell width) width := by
  have positive : 0 < (width : Int) := by omega
  have narrowed (value : Int) : IsOfWidth (Codec.wrap value width) width := by
    obtain ⟨least, most, -⟩ :=
      (Codec.narrows_iff value (Codec.wrap value width) positive).mpr rfl
    exact ⟨least, most⟩
  have nothing : IsOfWidth 0 width := by
    have half : 0 < twoTo (width - 1) := Nat.two_pow_pos _
    exact ⟨by omega, by exact_mod_cast half⟩
  cases cell with
  | integer value => exact narrowed value
  | _ => exact nothing

theorem fits_ofCells (eventClass : EventClass) (sound : eventClass.IsSound) (cells : List Cell)
    (count : cells.length = eventClass.columns.length) : (ofCells eventClass cells).Fits := by
  have length : eventClass.retrieved.length = eventClass.columns.length := by
    rw [← sound.count, ← sound.retrieved, List.length_map]
  constructor
  · simp [ofCells, count, length]
  · intro entry member
    obtain ⟨position, entryAt⟩ := List.mem_iff_getElem?.mp member
    obtain ⟨decodingAt, valueAt⟩ := List.getElem?_zip_eq_some.mp entryAt
    rw [ofCells, List.getElem?_map] at valueAt
    obtain ⟨own, ownAt, made⟩ := Option.map_eq_some_iff.mp valueAt
    have same := (List.getElem?_zip_eq_some.mp ownAt).1
    have alike : own.1 = entry.1 := Option.some.inj (same.symm.trans decodingAt)
    rw [← alike]
    exact ⟨_, made.symm, isOfWidth_wrapped own.2 own.1.width
      (sound.widths own.1 (List.mem_of_getElem? same))⟩

variable {connection : Connection} (ready : connection.IsReady) (plain : connection.database.IsPlain)

include ready plain

theorem retrieve_stored (event : Event) (sound : event.eventClass.IsSound)
    {contents : List (Text → Cell)}
    (has : connection.database.Has event.eventClass.table event.eventClass.columns contents)
    (integers : List Int) (held : event.values = integers.map Document.integer)
    (count : integers.length = event.eventClass.columns.length)
    (inRange : ∀ value ∈ integers, Cell.inRange value = true) (time : Int)
    (timed : event.value event.eventClass.timeColumn = .integer time)
    (timeInRange : Cell.inRange time = true) :
    ∃ stored found, event.store connection = .ok stored ∧
      retrieve event.eventClass stored (.integer time) (.integer time) = .ok found ∧
      (event ∈ found ↔ event.Fits) := by
  obtain ⟨stored, run, storedReady, storedPlain, storedHas, _⟩ :=
    store_eq ready plain event sound has integers held count inRange
  obtain ⟨found, retrieved, chosen⟩ := retrieve_eq storedReady storedPlain event.eventClass sound
    storedHas time time timeInRange timeInRange
  refine ⟨stored, found, run, retrieved, ?_⟩
  rw [chosen.mem_iff]
  constructor
  · intro member
    obtain ⟨read, _, same⟩ := List.mem_map.mp member
    rw [← same]
    exact fits_ofCells event.eventClass sound _ (by simp)
  · intro fits
    have cells : event.cells = integers.map Cell.integer := by
      rw [Event.cells, held, List.map_map]
      rfl
    refine List.mem_map.mpr ⟨event.read, List.mem_filter.mpr ⟨?_, ?_⟩, event.ofCells_read sound fits⟩
    · rw [read, cells]
      exact List.mem_append_right _ (List.mem_singleton_self _)
    · rw [event.read_isWithin sound fits, isWithin, timed]
      simp

end Event

namespace Compilation

/-- The event of a class with some integers. -/
def withIntegers (event : RawEvent) (integers : List Int) : Event where
  eventClass := classOf event
  values := integers.map Document.integer

section Integers

variable (event : RawEvent) (integers : List Int)

/-- How a field is read back. -/
def decodingOf (field : Field) : Decoding := { name := field.name, width := field.width }

theorem retrieved_classOf_eq : (classOf event).retrieved = (fieldsOf event).map decodingOf := by
  simp only [classOf, EventClass.ofEntity, stored_entityOf]
  rfl

theorem zip_withIntegers : (classOf event).retrieved.zip (withIntegers event integers).values =
    ((fieldsOf event).zip integers).map fun entry =>
      (decodingOf entry.1, Document.integer entry.2) := by
  rw [retrieved_classOf_eq, withIntegers, List.zip_map]
  rfl

variable (length : (fieldsOf event).length = integers.length)

include length

theorem exists_integer (field : Field) (member : field ∈ fieldsOf event) :
    ∃ integer, (field, integer) ∈ (fieldsOf event).zip integers := by
  rw [← List.map_fst_zip (Nat.le_of_eq length)] at member
  obtain ⟨entry, listed, rfl⟩ := List.mem_map.mp member
  exact ⟨entry.2, listed⟩

variable (sound : (classOf event).IsSound)

include sound

theorem length_withIntegers :
    (withIntegers event integers).values.length = (classOf event).columns.length := by
  rw [← sound.count, ← sound.retrieved, retrieved_classOf_eq]
  simp [withIntegers, length]

theorem value_withIntegers (field : Field) (integer : Int)
    (member : (field, integer) ∈ (fieldsOf event).zip integers) :
    (withIntegers event integers).value field.name = .integer integer := by
  obtain ⟨position, entryAt⟩ := List.mem_iff_getElem?.mp member
  obtain ⟨fieldAt, integerAt⟩ := List.getElem?_zip_eq_some.mp entryAt
  refine Event.value_at _ sound (length_withIntegers event integers length sound) position ?_ ?_
  · rw [withIntegers, ← sound.retrieved, retrieved_classOf_eq]
    simp [fieldAt, decodingOf]
  · simp [withIntegers, integerAt]

/-- The event fits if each integer has the width of its field. -/
theorem fits_withIntegers : (withIntegers event integers).Fits ↔
    ∀ entry ∈ (fieldsOf event).zip integers, Event.IsOfWidth entry.2 entry.1.width := by
  have ownClass : (withIntegers event integers).eventClass = classOf event := rfl
  constructor
  · intro whole entry listed
    obtain ⟨value, same, fits⟩ := whole.integers (decodingOf entry.1, .integer entry.2) (by
      rw [ownClass, zip_withIntegers]
      exact List.mem_map.mpr ⟨entry, listed, rfl⟩)
    rw [Document.integer.inj same]
    exact fits
  · intro narrow
    constructor
    · rw [length_withIntegers event integers length sound, ownClass, ← sound.count,
        ← sound.retrieved, List.length_map]
    · intro entry member
      rw [ownClass, zip_withIntegers] at member
      obtain ⟨own, listed, rfl⟩ := List.mem_map.mp member
      exact ⟨own.2, rfl, narrow own listed⟩

end Integers

section Drawn

variable (event : RawEvent) (accepted : Validation.AcceptsEvent event) (clock : Clock) (seconds : Int)
  (timed : clock.seconds? = some seconds) (fits : Event.IsOfWidth clock.milliseconds 64)

include accepted timed fits

/-- What is drawn for the time lies around the clock, and what is drawn for another field fits it. -/
theorem draws_cases (field : Field) (member : field ∈ fieldsOf event) (value : Int)
    (draws : Draws clock field value) :
    (field.name = timeName ∧ (seconds - Generator.jitter ≤ value ∧
        value < seconds + Generator.jitter) ∧ Event.IsOfWidth value 64) ∨
      (field.name ≠ timeName ∧ Event.IsOfWidth value field.width) := by
  obtain ⟨generator, named, time, others⟩ := generator_of_mem_fieldsOf event accepted field member
  obtain ⟨same, found, made⟩ := draws
  obtain rfl : same = generator := Option.some.inj (found.symm.trans named)
  by_cases isTime : field.name = timeName
  · obtain rfl := time isTime
    obtain ⟨own, read, least, most⟩ := made
    obtain rfl := Option.some.inj (read.symm.trans timed)
    have bound := clock.natAbs_seconds_le fits own timed
    have bounds : twoTo 54 = 18014398509481984 ∧
        (twoTo (64 - 1) : Int) = 9223372036854775808 := ⟨rfl, rfl⟩
    have jitter : (Generator.jitter : Int) = 60 := rfl
    refine .inl ⟨isTime, ⟨least, most⟩, ?_, ?_⟩ <;> omega
  · exact .inr ⟨isTime, others isTime clock value fits made⟩

variable (sound : (classOf event).IsSound) (integers : List Int)
  (draws : List.Forall₂ (Draws clock) (fieldsOf event) integers)

include draws

/-- The integers of a random event have 64 bits. -/
theorem inRange_of_draws : ∀ value ∈ integers, Cell.inRange value = true := by
  obtain ⟨length, each⟩ := List.forall₂_iff_zip.mp draws
  intro value member
  rw [← List.map_snd_zip (Nat.le_of_eq length.symm)] at member
  obtain ⟨⟨field, own⟩, listed, rfl⟩ := List.mem_map.mp member
  have fieldMember := (List.of_mem_zip listed).1
  rcases draws_cases event accepted clock seconds timed fits field fieldMember own (each listed) with
    ⟨_, _, wide⟩ | ⟨_, narrow⟩
  · exact Event.inRange_of_isOfWidth own 64 (.inr rfl) wide
  · exact Event.inRange_of_isOfWidth own _ (width_of_mem_fieldsOf event field fieldMember) narrow

include sound

/-- A random event fits if and only if its time does. -/
theorem fits_iff_of_draws : ∃ time, (withIntegers event integers).value timeName = .integer time ∧
    (seconds - Generator.jitter ≤ time ∧ time < seconds + Generator.jitter) ∧
    Event.IsOfWidth time 64 ∧
    ((withIntegers event integers).Fits ↔ ∀ decoding ∈ (classOf event).retrieved,
      decoding.name = timeName → Event.IsOfWidth time decoding.width) := by
  obtain ⟨length, each⟩ := List.forall₂_iff_zip.mp draws
  have cases (field : Field) (integer : Int) (listed : (field, integer) ∈ (fieldsOf event).zip integers) :=
    draws_cases event accepted clock seconds timed fits field (List.of_mem_zip listed).1 integer
      (each listed)
  have value := value_withIntegers event integers length sound
  have named : timeName ∈ (fieldsOf event).map fun field => field.name := by
    rw [names_fieldsOf, ← stored_classOf, ← timeColumn_entityOf event accepted]
    exact (List.of_mem_zip sound.timed).2
  obtain ⟨field, member, isTime⟩ := List.mem_map.mp named
  obtain ⟨time, listed⟩ := exists_integer event integers length field member
  have timeIs := value field time listed
  rw [isTime] at timeIs
  -- The time is the integer of each field that is named like it.
  have same (field : Field) (integer : Int) (listed : (field, integer) ∈ (fieldsOf event).zip integers)
      (isTime : field.name = timeName) : integer = time := by
    have again := value field integer listed
    rw [isTime, timeIs] at again
    exact (Document.integer.inj again).symm
  rcases cases field time listed with ⟨_, near, wide⟩ | ⟨other, _⟩
  · refine ⟨time, timeIs, near, wide, ?_⟩
    rw [fits_withIntegers event integers length sound, retrieved_classOf_eq]
    constructor
    · intro narrow decoding decodingMember called
      obtain ⟨found, foundMember, rfl⟩ := List.mem_map.mp decodingMember
      obtain ⟨integer, integerListed⟩ := exists_integer event integers length found foundMember
      rw [← same found integer integerListed called]
      exact narrow _ integerListed
    · rintro narrow ⟨found, integer⟩ integerListed
      rcases cases found integer integerListed with ⟨called, _⟩ | ⟨_, fitting⟩
      · rw [same found integer integerListed called]
        exact narrow _ (List.mem_map_of_mem (List.of_mem_zip integerListed).1) called
      · exact fitting
  · exact absurd isTime other

end Drawn

end Compilation

namespace Migration

open Event

section Migrated

variable (schema : RawSchema) (sourcePath : Option Text) (accepted : Validation.Accepts schema)
  (plainNames : schema.HasPlainNames) {connection : Connection}
  (succeeds : (migrate connection (moduleOf schema sourcePath)).error = none)

include accepted plainNames succeeds

/-- A random event is stored in a database that was migrated, and retrieving its time succeeds. -/
theorem retrieve_random (ready : connection.IsReady) (plain : connection.database.IsPlain)
    (clock : Clock) (seconds : Int) (timed : clock.seconds? = some seconds)
    (fits : IsOfWidth clock.milliseconds 64) (eventClass : EventClass)
    (listed : eventClass ∈ (moduleOf schema sourcePath).classes) (source : RandomSource) :
    ∃ event later time stored found,
      Event.random eventClass clock source = (.ok event, later) ∧
      event.value eventClass.timeColumn = .integer time ∧
      (seconds - Generator.jitter ≤ time ∧ time < seconds + Generator.jitter) ∧
      IsOfWidth time 64 ∧
      event.store (migrate connection (moduleOf schema sourcePath)).connection = .ok stored ∧
      Event.retrieve eventClass stored (.integer time) (.integer time) = .ok found ∧
      (event ∈ found ↔ event.Fits) ∧
      (event.Fits ↔ ∀ decoding ∈ eventClass.retrieved,
        decoding.name = eventClass.timeColumn → IsOfWidth time decoding.width) := by
  obtain ⟨migratedReady, migratedPlain, _, tables⟩ :=
    grows_migrated schema sourcePath accepted plainNames succeeds ready plain
  have sound := (areStorable_moduleOf schema sourcePath accepted plainNames).sound _ listed
  have timeColumn := timeColumn_moduleOf schema sourcePath accepted eventClass listed
  obtain ⟨table, tableAt, known⟩ := tables eventClass listed
  obtain ⟨raw, rawMember, rfl⟩ := (mem_classes_moduleOf schema sourcePath _).mp listed
  have rawAccepted := accepted.events raw rawMember
  obtain ⟨integers, later, drawn, draws⟩ := random_classOf raw rawAccepted clock seconds timed source
  obtain ⟨length, _⟩ := List.forall₂_iff_zip.mp draws
  obtain ⟨time, value, near, wide, narrow⟩ := fits_iff_of_draws raw rawAccepted clock seconds timed
    fits sound integers draws
  have values := length_withIntegers raw integers length sound
  rw [← timeColumn] at value narrow
  obtain ⟨stored, found, run, retrieved, mem⟩ := retrieve_stored migratedReady migratedPlain
    (withIntegers raw integers) sound ⟨table, tableAt, known, rfl⟩ integers rfl
    (by simpa [withIntegers] using values)
    (inRange_of_draws raw rawAccepted clock seconds timed fits integers draws) time value
    (inRange_of_isOfWidth time 64 (.inr rfl) wide)
  exact ⟨_, later, time, stored, found, drawn, value, near, wide, run, retrieved, mem, narrow⟩

end Migrated

/-- A random event of a module is stored in each plain database that the module was migrated on, and
comes back when its time is asked for if and only if the time, which lies around the clock, has the
width that the schema gives it. -/
theorem random_event_returns_iff (schema : RawSchema) (sourcePath : Option Text)
    (compiled : CompiledSchema) (made : compileRaw schema sourcePath = .ok compiled)
    (session : ScriptState) (reference path : Text)
    (loads : (EventModule.ofCompiled compiled).Loads session reference path)
    (connection : Connection) (ready : connection.IsReady) (plain : connection.database.IsPlain)
    (succeeds : (migrate connection (EventModule.ofCompiled compiled)).error = none)
    (clock : Clock) (seconds : Int) (timed : clock.seconds? = some seconds)
    (fits : IsOfWidth clock.milliseconds 64) :
    ∀ eventClass ∈ (EventModule.ofCompiled compiled).classes, ∀ source : RandomSource,
      ∃ event later time stored found,
        Event.random eventClass clock source = (.ok event, later) ∧
        event.value eventClass.timeColumn = .integer time ∧
        (seconds - Generator.jitter ≤ time ∧ time < seconds + Generator.jitter) ∧
        IsOfWidth time 64 ∧
        event.store (migrate connection (EventModule.ofCompiled compiled)).connection = .ok stored ∧
        Event.retrieve eventClass stored (.integer time) (.integer time) = .ok found ∧
        (event ∈ found ↔ event.Fits) ∧
        (event.Fits ↔ ∀ decoding ∈ eventClass.retrieved,
          decoding.name = eventClass.timeColumn → IsOfWidth time decoding.width) := by
  obtain ⟨accepted, rfl⟩ := of_compileRaw schema sourcePath compiled made
  have plainNames := hasPlainNames_of_loads schema sourcePath accepted session reference path loads
  exact retrieve_random schema sourcePath accepted plainNames succeeds ready plain clock seconds
    timed fits

/-- A time in the year 2039. -/
def lateClock : Clock := ⟨2200000000000000000⟩

theorem seconds_lateClock : lateClock.seconds? = some 2200000000 := by rfl

theorem milliseconds_lateClock : IsOfWidth lateClock.milliseconds 64 := ⟨by decide, by decide⟩

theorem lateClock_returns_login : ∃ compiled event later time stored found,
    compileRaw loginSchema none = .ok compiled ∧
      Event.random (classOf (timedEvent "login")) lateClock (.ofSeed 0) = (.ok event, later) ∧
      event.value (classOf (timedEvent "login")).timeColumn = .integer time ∧
      event.store (migrate emptyConnection (EventModule.ofCompiled compiled)).connection =
        .ok stored ∧
      Event.retrieve (classOf (timedEvent "login")) stored (.integer time) (.integer time) =
        .ok found ∧
      event ∈ found := by
  obtain ⟨made, loads⟩ := compiles_loginSchema
  obtain ⟨event, later, time, stored, found, drawn, timed, _, wide, run, retrieved, mem, narrow⟩ :=
    random_event_returns_iff loginSchema none _ made bareSession "events.py" "events.py" loads
      emptyConnection ⟨rfl, rfl⟩ (isPlain_of_empty (holds_empty _)) migrates_loginSchema
      lateClock 2200000000 seconds_lateClock milliseconds_lateClock _ mem_classes_loginSchema
      (.ofSeed 0)
  refine ⟨_, event, later, time, stored, found, made, drawn, timed, run, retrieved,
    mem.mpr (narrow.mpr fun decoding listed _ => ?_)⟩
  rw [retrieved_login] at listed
  simp only [List.mem_cons, List.not_mem_nil, or_false] at listed
  rcases listed with rfl | rfl <;> exact wide

theorem migrates_narrowSchema :
    (migrate emptyConnection (moduleOf narrowSchema none)).error = none := by
  have plain := hasPlainNames_of_loads narrowSchema none accepts_narrowSchema _ _ _
    (loads_narrowSchema bareSession "events.py" "events.py")
  refine (migrate_moduleOf_iff narrowSchema none accepts_narrowSchema plain emptyConnection
    ⟨rfl, rfl⟩ (holds_empty _)).mpr ⟨?_, ?_⟩
  · intro first firstMember second secondMember
    obtain rfl := List.mem_singleton.mp firstMember
    obtain rfl := List.mem_singleton.mp secondMember
    decide
  · intro event member
    obtain rfl := List.mem_singleton.mp member
    decide

/-- An event whose time has 32 bits is lost when the seconds have more. -/
theorem lateClock_loses_narrowEvent : ∃ compiled event later time stored found,
    compileRaw narrowSchema none = .ok compiled ∧
      (EventModule.ofCompiled compiled).Loads bareSession "events.py" "events.py" ∧
      classOf narrowEvent ∈ (EventModule.ofCompiled compiled).classes ∧
      (migrate emptyConnection (EventModule.ofCompiled compiled)).error = none ∧
      lateClock.seconds? = some 2200000000 ∧ IsOfWidth 2200000000 64 ∧
      IsOfWidth lateClock.milliseconds 64 ∧
      Event.random (classOf narrowEvent) lateClock (.ofSeed 0) = (.ok event, later) ∧
      event.value (classOf narrowEvent).timeColumn = .integer time ∧
      event.store (migrate emptyConnection (EventModule.ofCompiled compiled)).connection =
        .ok stored ∧
      Event.retrieve (classOf narrowEvent) stored (.integer time) (.integer time) = .ok found ∧
      event ∉ found := by
  have made := compileRaw_eq narrowSchema none
    ((Validation.errors_eq_nil_iff _).mpr accepts_narrowSchema)
  have loads := loads_narrowSchema bareSession "events.py" "events.py"
  have plain := hasPlainNames_of_loads narrowSchema none accepts_narrowSchema _ _ _ loads
  have listed : classOf narrowEvent ∈ (moduleOf narrowSchema none).classes :=
    (mem_classes_moduleOf narrowSchema none _).mpr ⟨_, List.mem_singleton.mpr rfl, rfl⟩
  have timeColumn := timeColumn_moduleOf narrowSchema none accepts_narrowSchema _ listed
  obtain ⟨event, later, time, stored, found, drawn, timed, near, _, run, retrieved, mem, narrow⟩ :=
    retrieve_random narrowSchema none accepts_narrowSchema plain migrates_narrowSchema ⟨rfl, rfl⟩
      (isPlain_of_empty (holds_empty _)) lateClock 2200000000 seconds_lateClock
      milliseconds_lateClock _ listed (.ofSeed 0)
  refine ⟨_, event, later, time, stored, found, made, loads, listed, migrates_narrowSchema,
    seconds_lateClock, ⟨by decide, by decide⟩, milliseconds_lateClock, drawn, timed, run, retrieved,
    fun member => ?_⟩
  have fits := narrow.mp (mem.mp member) { name := "time", width := 32 } (by
    rw [retrieved_narrowEvent]
    exact List.mem_cons_self ..) timeColumn.symm
  have most : time < 2147483648 := fits.2
  have least : (2200000000 : Int) - 60 ≤ time := near.1
  omega

end Migration

end EventForge
