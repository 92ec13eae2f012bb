import EventForge.Command.Report
import EventForge.Proofs.Config.Duration
import EventForge.Proofs.Outcome

/-!
# Intervals

An interval is refused if it compares as zero or less.  NaN does not, so it is let through.  Only NaN
itself and the texts that spell it are read as NaN: a number with a unit has a sign, and so has every
sum of these.  All intervals in settings are therefore greater than zero unless NaN is given for them.
-/

namespace EventForge

namespace Duration

open Binary64

/-!
## Durations that are read
-/

theorem isPositiveFinite_seconds (unit : TimeUnit) : IsPositiveFinite unit.seconds := by
  cases unit <;> exact ⟨_, _, _, rfl⟩

theorem Piece.IsValid.hasSign {piece : Piece} (valid : piece.IsValid) {seconds : Float}
    (worth : piece.IsWorth seconds) : HasSign .positive seconds := by
  obtain ⟨number, unit, read, _, rfl⟩ := worth
  obtain ⟨digits, exponent, own⟩ := float?_number piece.number valid.number
  rw [own] at read
  cases read
  exact hasSign_mul _ _ (hasSign_scaleDecimal false digits exponent) (isPositiveFinite_seconds unit)

theorem hasSign_sum (pieces : List Piece) (amounts : List Float) (sum : Float)
    (valid : ∀ piece ∈ pieces, piece.IsValid) (worth : List.Forall₂ Piece.IsWorth pieces amounts)
    (own : HasSign .positive sum) : HasSign .positive (amounts.foldl (· + ·) sum) := by
  induction worth generalizing sum with
  | nil => exact own
  | cons first _ ih =>
      apply ih _ fun piece member => valid piece (by simp [member])
      exact hasSign_add _ _ own ((valid _ (by simp)).hasSign first)

/-- A sum over pieces is a number, whatever the numbers in them. -/
theorem hasSign_pieces (text : Text) (seconds : Float)
    (unread : Reading.float? text.strip = none) (read : ofText? text = some seconds) :
    HasSign .positive seconds := by
  obtain ⟨pieces, cut⟩ := exists_cut text seconds unread read
  obtain ⟨amounts, worth⟩ := exists_amounts pieces cut.valid
  rw [ofText?_cut text pieces amounts unread cut worth] at read
  cases read
  exact hasSign_sum pieces amounts 0.0 cut.valid worth rfl

/-- Whether a value is NaN, or a text that spells it. -/
def IsNotANumber : Document → Prop
  | .float number => number.isNaN = true
  | .text text => Reading.SpellsNaN text.strip
  | _ => False

theorem ofText?_of_float? (text : Text) (seconds : Float)
    (read : Reading.float? text.strip = some seconds) : ofText? text = some seconds := by
  simp [ofText?, read]

theorem isNaN_text_iff (text : Text) (seconds : Float) (read : ofText? text = some seconds) :
    seconds.isNaN = true ↔ Reading.SpellsNaN text.strip := by
  constructor
  · intro isNaN
    by_contra other
    have signed : ∃ sign, HasSign sign seconds := by
      cases number : Reading.float? text.strip with
      | none => exact ⟨_, hasSign_pieces text seconds number read⟩
      | some found =>
          rw [ofText?_of_float? text found number] at read
          cases read
          exact (Reading.of_float? _ _ number).resolve_left other
    rw [hasSign_iff, isNaN] at signed
    cases signed
  · intro spelled
    rw [ofText?_of_float? text _ (Reading.float?_of_spellsNaN _ spelled)] at read
    cases read
    decide

/-- Only NaN is read as NaN. -/
theorem isNaN_iff (value : Document) (seconds : Float) (read : ofDocument value = .ok seconds) :
    seconds.isNaN = true ↔ IsNotANumber value := by
  cases value with
  | float number =>
      cases read
      exact Iff.rfl
  | text text =>
      rw [ofDocument] at read
      split at read
      · rename_i found
        cases read
        exact isNaN_text_iff text _ found
      · cases read
  | integer number =>
      rw [ofDocument] at read
      split at read
      · rename_i found
        cases read
        have signed := (hasSign_iff _).mp (hasSign_ofInt? number _ found)
        rw [signed]
        exact iff_of_false Bool.false_ne_true id
      · cases read
  | _ => cases read

end Duration

namespace Settings

open Duration

/-!
## Checking intervals
-/

theorem parseInterval_of_ok {value : Document} {seconds : Float}
    (read : ofDocument value = .ok seconds) : parseInterval value =
      if seconds ≤ 0.0 then .error (.notPositive value.display) else .ok seconds := by
  rw [parseInterval, read]
  by_cases low : seconds ≤ 0.0
  · rw [if_pos low]
    simp only [Except.mapError, Outcome.ok_bind, if_pos low]
    rfl
  · rw [if_neg low]
    simp only [Except.mapError, Outcome.ok_bind, if_neg low]
    rfl

theorem parseInterval_of_error {value : Document} {fault : DurationFault}
    (unread : ofDocument value = .error fault) : parseInterval value = .error (.duration fault) := by
  rw [parseInterval, unread]
  rfl

/-- An interval is accepted exactly if it is greater than zero or NaN. -/
theorem parseInterval_eq_ok_iff (value : Document) (seconds : Float) :
    parseInterval value = .ok seconds ↔
      ofDocument value = .ok seconds ∧ (0.0 < seconds ∨ IsNotANumber value) := by
  cases read : ofDocument value with
  | error fault => simp [parseInterval_of_error read]
  | ok found =>
      have compared := Binary64.not_le_zero_iff found
      rw [isNaN_iff value found read] at compared
      rw [parseInterval_of_ok read]
      by_cases low : found ≤ 0.0
      · have none : ¬(0.0 < found ∨ IsNotANumber value) := fun high => compared.mpr high low
        simp only [if_pos low, reduceCtorEq, Except.ok.injEq, false_iff]
        rintro ⟨rfl, high⟩
        exact none high
      · simp only [if_neg low, Except.ok.injEq]
        exact ⟨fun same => ⟨same, same ▸ compared.mp low⟩, And.left⟩

/-- Only an integer beyond every double fails without a refusal. -/
theorem parseInterval_eq_tooLarge_iff (value : Document) :
    parseInterval value = .error (.duration .tooLarge) ↔
      ∃ number, value = .integer number ∧ Binary64.ofInt? number = none := by
  have ends : parseInterval value = .error (.duration .tooLarge) ↔
      ofDocument value = .error .tooLarge := by
    cases read : ofDocument value with
    | error fault => simp [parseInterval_of_error read]
    | ok seconds => by_cases low : seconds ≤ 0.0 <;> simp [parseInterval_of_ok read, low]
  rw [ends]
  cases value with
  | integer number => cases found : Binary64.ofInt? number <;> simp [ofDocument, found]
  | text text => cases found : ofText? text <;> simp [ofDocument, found]
  | _ => simp [ofDocument]

/-- What an interval is that is accepted. -/
theorem interval_of_parse {value : Document} {seconds : Float}
    (parsed : parseInterval value = .ok seconds) :
    (0.0 < seconds ↔ ¬IsNotANumber value) ∧ (seconds.isNaN = true ↔ IsNotANumber value) := by
  obtain ⟨read, high⟩ := (parseInterval_eq_ok_iff value seconds).mp parsed
  have nan := isNaN_iff value seconds read
  have apart := Binary64.not_lt_of_isNaN seconds
  exact ⟨⟨fun high found => apart (nan.mpr found) high, high.resolve_right⟩, nan⟩

/-- Why a value is no interval: it is refused, or it is beyond every double. -/
theorem exists_fault (value : Document) (other : ¬IsNotANumber value)
    (low : ∀ seconds, ofDocument value = .ok seconds → ¬0.0 < seconds) :
    ∃ fault, parseInterval value = .error fault ∧
      (fault.isRefusal = true ∨ fault = .duration .tooLarge) := by
  cases parsed : parseInterval value with
  | ok seconds =>
      obtain ⟨read, high⟩ := (parseInterval_eq_ok_iff value seconds).mp parsed
      exact absurd (high.resolve_right other) (low seconds read)
  | error fault =>
      refine ⟨fault, rfl, ?_⟩
      match fault with
      | .duration .tooLarge => exact .inr rfl
      | .duration (.invalid _) | .notPositive _ => exact .inl rfl

/-!
## Checks of the library
-/

theorem checkDuration_eq_ok_iff (value : Document) (seconds : Float) :
    checkDuration value = .ok seconds ↔ parseInterval value = .ok seconds := by
  unfold checkDuration
  split <;> simp_all

theorem checkDuration_eq_tooLarge_iff (value : Document) :
    checkDuration value = .tooLarge ↔ parseInterval value = .error (.duration .tooLarge) := by
  unfold checkDuration
  split <;> simp_all

theorem checkDuration_of_refusal {value : Document} {fault : IntervalFault}
    (parsed : parseInterval value = .error fault) (refusal : fault.isRefusal = true) :
    checkDuration value = .wrong (.interval fault) := by
  rw [checkDuration, parsed]
  match fault with
  | .duration .tooLarge => cases refusal
  | .duration (.invalid _) | .notPositive _ => rfl

/-!
## Settings one by one

Settings are checked as a list of slots.  A step of the checks changes the setting that it is about
and adds its problem, and keeps everything else.
-/

/-- A setting: its name, and what a checked value does to the settings. -/
structure Slot where
  name : Text
  change : Document → Checked (Settings → Settings)

def slot {Value : Type} (name : Text) (check : Document → Checked Value)
    (set : Settings → Value → Settings) : Slot where
  name
  change given :=
    match check given with
    | .ok value => .ok fun settings => set settings value
    | .wrong fault => .wrong fault
    | .tooLarge => .tooLarge

/-- The settings in order. -/
def slots : List Slot :=
  [slot "db_path" checkText fun settings value => { settings with databasePath := value },
    slot "db_retry_count" (checkInteger (some 1)) fun settings value =>
      { settings with retryCount := value },
    slot "db_busy_timeout_ms" (checkInteger (some 0)) fun settings value =>
      { settings with busyTimeout := value },
    slot "random_seed" (checkInteger none) fun settings value => { settings with seed := value },
    slot "write_interval" checkDuration fun settings value =>
      { settings with writeInterval := value },
    slot "read_interval" checkDuration fun settings value => { settings with readInterval := value },
    slot "check_interval" checkDuration fun settings value =>
      { settings with checkInterval := value },
    slot "stats_interval" checkDuration fun settings value =>
      { settings with statsInterval := value },
    slot "type_mapping_path" checkOptionalText fun settings value =>
      { settings with schemaPath := value },
    slot "events_module" checkOptionalText fun settings value =>
      { settings with eventsModule := value },
    slot "log_level" checkLevel fun settings value => { settings with logLevel := value },
    slot "log_format" checkFormat fun settings value => { settings with logFormat := value }]

variable (inputs : Inputs)

/-- Takes one setting over, if it is given. -/
def take (progress : Progress) (slot : Slot) : Except SettingsError Progress :=
  takeOver inputs slot.name slot.change (fun settings change => change settings) progress

theorem takeOver_eq {Value : Type} (name : Text) (check : Document → Checked Value)
    (set : Settings → Value → Settings) :
    takeOver inputs name check set = fun progress => take inputs progress (slot name check set) := by
  funext progress
  rw [take, takeOver, takeOver, slot]
  cases inputs.value? name with
  | none => rfl
  | some value => cases verdict : check value <;> simp [verdict]

/-- The settings, unless there are problems. -/
def finish (progress : Progress) : Except SettingsError Settings :=
  let unknown := (inputs.arguments.filter fun entry => !names.contains entry.1.lower).map
    fun entry => (entry.1, SettingFault.unknown)
  if (progress.problems ++ unknown).isEmpty then .ok progress.settings
  else .error (.invalid (progress.problems ++ unknown))

theorem make_eq :
    make inputs = slots.foldlM (take inputs) { settings := {}, problems := [] } >>= finish inputs := by
  simp only [make, takeOver_eq, slots, List.foldlM_cons, List.foldlM_nil, bind_assoc]
  rfl

/-- All that a step of the checks can do. -/
theorem take_cases (progress : Progress) (slot : Slot) :
    (inputs.value? slot.name = none ∧ take inputs progress slot = .ok progress) ∨
      ∃ value, inputs.value? slot.name = some value ∧
        ((∃ change, slot.change value = .ok change ∧
            take inputs progress slot =
              .ok { progress with settings := change progress.settings }) ∨
          (∃ fault, slot.change value = .wrong fault ∧
            take inputs progress slot =
              .ok { progress with problems := progress.problems ++ [(slot.name, fault)] }) ∨
          slot.change value = .tooLarge ∧ take inputs progress slot = .error .tooLarge) := by
  rw [take, takeOver]
  cases inputs.value? slot.name with
  | none => exact .inl ⟨rfl, rfl⟩
  | some value => cases verdict : slot.change value <;> simp [verdict]

/-- Whether a slot keeps a part of the settings. -/
def Slot.Keeps {Value : Type} (slot : Slot) (get : Settings → Value) : Prop :=
  ∀ value change, slot.change value = .ok change → ∀ settings, get (change settings) = get settings

theorem keeps_slot {Value Part : Type} (name : Text) (check : Document → Checked Value)
    (set : Settings → Value → Settings) (get : Settings → Part)
    (keeps : ∀ settings value, get (set settings value) = get settings) :
    (slot name check set).Keeps get := by
  intro given change changed settings
  simp only [slot] at changed
  split at changed
  · cases changed
    exact keeps settings _
  · cases changed
  · cases changed

/-- Steps of the checks keep what each of them keeps, and all problems. -/
theorem run_keeps {Value : Type} (get : Settings → Value) (list : List Slot)
    (keeps : ∀ slot ∈ list, slot.Keeps get) (start finished : Progress)
    (ran : list.foldlM (take inputs) start = .ok finished) :
    get finished.settings = get start.settings ∧ start.problems ⊆ finished.problems := by
  induction list generalizing start with
  | nil =>
      cases ran
      exact ⟨rfl, List.Subset.refl _⟩
  | cons slot list ih =>
      rw [List.foldlM_cons] at ran
      obtain ⟨next, taken, ran⟩ := (Outcome.bind_eq_ok_iff _ _ _).mp ran
      obtain ⟨same, more⟩ := ih (fun other member => keeps other (by simp [member])) next ran
      rcases take_cases inputs start slot with ⟨_, own⟩ | ⟨value, _, ⟨change, changed, own⟩ |
        ⟨fault, _, own⟩ | ⟨_, own⟩⟩
      · rw [own] at taken
        cases taken
        exact ⟨same, more⟩
      · rw [own] at taken
        cases taken
        exact ⟨same.trans (keeps slot (by simp) value change changed _), more⟩
      · rw [own] at taken
        cases taken
        exact ⟨same, List.Subset.trans (List.subset_append_left ..) more⟩
      · rw [own] at taken
        cases taken

/-- Whether the value that is given for a slot ends the checks. -/
def Ends (slot : Slot) : Prop :=
  ∃ value, inputs.value? slot.name = some value ∧ slot.change value = .tooLarge

/-- Checks that do not come to their end stop at a value that is too large. -/
theorem run_ends_iff (list : List Slot) (start : Progress) :
    ((∃ slot ∈ list, Ends inputs slot) ∧ list.foldlM (take inputs) start = .error .tooLarge) ∨
      (¬∃ slot ∈ list, Ends inputs slot) ∧
        ∃ finished, list.foldlM (take inputs) start = .ok finished := by
  induction list generalizing start with
  | nil => exact .inr ⟨by simp, start, rfl⟩
  | cons slot list ih =>
      rw [List.foldlM_cons]
      rcases take_cases inputs start slot with ⟨given, own⟩ | ⟨value, given, ⟨change, changed, own⟩ |
        ⟨fault, changed, own⟩ | ⟨changed, own⟩⟩
      · simpa [own, Ends, given] using ih start
      · simpa [own, Ends, given, changed] using ih _
      · simpa [own, Ends, given, changed] using ih _
      · exact .inl ⟨⟨slot, by simp, value, given, changed⟩, by rw [own]; rfl⟩

/-!
## Intervals in settings
-/

/-- A setting that is an interval. -/
structure Interval where
  name : Text
  get : Settings → Float
  set : Settings → Float → Settings

def Interval.slot (interval : Interval) : Slot :=
  Settings.slot interval.name checkDuration interval.set

def intervals : List Interval :=
  [{ name := "write_interval", get := writeInterval
     set := fun settings value => { settings with writeInterval := value } },
    { name := "read_interval", get := readInterval
      set := fun settings value => { settings with readInterval := value } },
    { name := "check_interval", get := checkInterval
      set := fun settings value => { settings with checkInterval := value } },
    { name := "stats_interval", get := statsInterval
      set := fun settings value => { settings with statsInterval := value } }]

/-- The default of an interval is positive, and what is set is what is got. -/
theorem intervals_lawful : ∀ interval ∈ intervals,
    0.0 < interval.get {} ∧ ∀ settings value, interval.get (interval.set settings value) = value := by
  simp only [intervals, List.forall_mem_cons, List.not_mem_nil, false_imp_iff, implies_true, and_true]
  exact ⟨by decide, by decide, by decide, by decide⟩

theorem slot_mem_slots (interval : Interval) (member : interval ∈ intervals) :
    interval.slot ∈ slots := by
  simp only [intervals, List.mem_cons, List.not_mem_nil, or_false] at member
  rcases member with rfl | rfl | rfl | rfl <;> simp [slots, Interval.slot]

/-- Only the slot of an interval changes it. -/
theorem keeps_or_same_name : ∀ interval ∈ intervals, ∀ slot ∈ slots,
    slot.Keeps interval.get ∨ slot.name = interval.name := by
  simp only [intervals, slots, List.forall_mem_cons, List.not_mem_nil, false_imp_iff, implies_true,
    and_true]
  refine ⟨⟨?_, ?_, ?_, ?_, ?_, ?_, ?_, ?_, ?_, ?_, ?_, ?_⟩,
    ⟨?_, ?_, ?_, ?_, ?_, ?_, ?_, ?_, ?_, ?_, ?_, ?_⟩, ⟨?_, ?_, ?_, ?_, ?_, ?_, ?_, ?_, ?_, ?_, ?_, ?_⟩,
    ?_, ?_, ?_, ?_, ?_, ?_, ?_, ?_, ?_, ?_, ?_, ?_⟩
  all_goals
    first
    | exact .inl (keeps_slot _ _ _ _ fun _ _ => rfl)
    | exact .inr rfl

theorem slots_split (interval : Interval) (member : interval ∈ intervals) :
    ∃ before after, slots = before ++ interval.slot :: after ∧
      (∀ slot ∈ before, slot.Keeps interval.get) ∧ ∀ slot ∈ after, slot.Keeps interval.get := by
  have isSlot := slot_mem_slots interval member
  have distinct : (slots.map Slot.name).Nodup := by decide
  obtain ⟨before, after, split⟩ := List.append_of_mem isSlot
  have keeps := keeps_or_same_name interval member
  rw [split] at keeps distinct
  simp only [List.map_append, List.map_cons, List.nodup_append, List.nodup_cons] at distinct
  refine ⟨before, after, split, ?_, ?_⟩
  · intro slot inside
    refine (keeps slot (by simp [inside])).resolve_right ?_
    exact distinct.2.2 _ (List.mem_map_of_mem inside) _ (by simp [Interval.slot, Settings.slot])
  · intro slot inside
    refine (keeps slot (by simp [inside])).resolve_right fun same => distinct.2.1.1 ?_
    exact List.mem_map.mpr ⟨slot, inside, same⟩

/-- What the checks leave of an interval: it is as it was, or the accepted value, or refused. -/
theorem interval_of_run (interval : Interval) (member : interval ∈ intervals)
    (start finished : Progress) (ran : slots.foldlM (take inputs) start = .ok finished) :
    (inputs.value? interval.name = none ∧
        interval.get finished.settings = interval.get start.settings) ∨
      ∃ value, inputs.value? interval.name = some value ∧
        (checkDuration value = .ok (interval.get finished.settings) ∨
          ∃ fault, checkDuration value = .wrong fault ∧
            (interval.name, fault) ∈ finished.problems) := by
  obtain ⟨before, after, split, keepsBefore, keepsAfter⟩ := slots_split interval member
  -- The slot of the interval is taken over between others that keep it.
  rw [split, List.foldlM_append] at ran
  obtain ⟨first, ranBefore, ran⟩ := (Outcome.bind_eq_ok_iff _ _ _).mp ran
  rw [List.foldlM_cons] at ran
  obtain ⟨next, taken, ranAfter⟩ := (Outcome.bind_eq_ok_iff _ _ _).mp ran
  obtain ⟨sameBefore, _⟩ := run_keeps inputs interval.get before keepsBefore start first ranBefore
  obtain ⟨sameAfter, more⟩ := run_keeps inputs interval.get after keepsAfter next finished ranAfter
  have lawful := (intervals_lawful interval member).2
  rw [sameAfter]
  rcases take_cases inputs first interval.slot with ⟨absent, own⟩ | ⟨value, given, verdict⟩
  · rw [own] at taken
    cases taken
    exact .inl ⟨absent, sameBefore⟩
  · refine .inr ⟨value, given, ?_⟩
    simp only [Interval.slot, slot] at verdict
    cases checked : checkDuration value with
    | ok seconds =>
        simp only [checked, Checked.ok.injEq, reduceCtorEq, false_and, exists_false, or_false] at verdict
        obtain ⟨change, rfl, own⟩ := verdict
        rw [Interval.slot, slot, own] at taken
        cases taken
        exact .inl (by rw [lawful])
    | wrong fault =>
        simp only [checked, Checked.wrong.injEq, reduceCtorEq, false_and, exists_false, false_or,
          or_false] at verdict
        obtain ⟨fault, rfl, own⟩ := verdict
        rw [Interval.slot, slot, own] at taken
        cases taken
        exact .inr ⟨fault, rfl, more (by simp)⟩
    | tooLarge =>
        simp only [checked, reduceCtorEq, false_and, exists_false, false_or, true_and] at verdict
        rw [Interval.slot, slot, verdict] at taken
        cases taken

theorem change_eq_tooLarge_iff {Value : Type} (name : Text) (check : Document → Checked Value)
    (set : Settings → Value → Settings) (value : Document) :
    (slot name check set).change value = .tooLarge ↔ check value = .tooLarge := by
  cases verdict : check value <;> simp [slot, verdict]

theorem checkText_ne_tooLarge (value : Document) : checkText value ≠ .tooLarge := by
  fun_cases checkText value <;> simp

theorem checkOptionalText_ne_tooLarge (value : Document) :
    checkOptionalText value ≠ .tooLarge := by
  fun_cases checkOptionalText value with
  | case1 | case2 | case3 => simp
  | case4 _ ends => exact absurd ‹_› (checkText_ne_tooLarge value)

theorem checkInteger_ne_tooLarge (least? : Option Int) (value : Document) :
    checkInteger least? value ≠ .tooLarge := by
  fun_cases checkInteger least? value <;> simp

theorem checkLevel_ne_tooLarge (value : Document) : checkLevel value ≠ .tooLarge := by
  fun_cases checkLevel value with
  | case1 | case2 | case3 => simp
  | case4 ends => exact absurd ends (checkText_ne_tooLarge value)

theorem checkFormat_ne_tooLarge (value : Document) : checkFormat value ≠ .tooLarge := by
  fun_cases checkFormat value <;> simp

/-- Only intervals have values that end the checks. -/
theorem isInterval_of_ends : ∀ slot ∈ slots,
    (∀ value, slot.change value ≠ .tooLarge) ∨ ∃ interval ∈ intervals, slot = interval.slot := by
  have never : ∀ {Value : Type} (name : Text) (check : Document → Checked Value)
      (set : Settings → Value → Settings), (∀ value, check value ≠ .tooLarge) →
        ∀ value, (slot name check set).change value ≠ .tooLarge := fun name check set each value =>
    (change_eq_tooLarge_iff name check set value).not.mpr (each value)
  simp only [slots, List.forall_mem_cons, List.not_mem_nil, false_imp_iff, implies_true, and_true]
  refine ⟨.inl (never _ _ _ checkText_ne_tooLarge), .inl (never _ _ _ (checkInteger_ne_tooLarge _)),
    .inl (never _ _ _ (checkInteger_ne_tooLarge _)), .inl (never _ _ _ (checkInteger_ne_tooLarge _)),
    .inr ⟨_, .head _, rfl⟩, .inr ⟨_, .tail _ (.head _), rfl⟩,
    .inr ⟨_, .tail _ (.tail _ (.head _)), rfl⟩, .inr ⟨_, .tail _ (.tail _ (.tail _ (.head _))), rfl⟩,
    .inl (never _ _ _ checkOptionalText_ne_tooLarge),
    .inl (never _ _ _ checkOptionalText_ne_tooLarge), .inl (never _ _ _ checkLevel_ne_tooLarge),
    .inl (never _ _ _ checkFormat_ne_tooLarge)⟩

theorem ends_iff :
    (∃ slot ∈ slots, Ends inputs slot) ↔
      ∃ interval ∈ intervals, ∃ value, inputs.value? interval.name = some value ∧
        parseInterval value = .error (.duration .tooLarge) := by
  have own : ∀ (interval : Interval) (value : Document), interval.slot.change value = .tooLarge ↔
      parseInterval value = .error (.duration .tooLarge) := fun interval value =>
    (change_eq_tooLarge_iff ..).trans (checkDuration_eq_tooLarge_iff value)
  constructor
  · rintro ⟨slot, isSlot, value, given, ends⟩
    rcases isInterval_of_ends slot isSlot with never | ⟨interval, member, rfl⟩
    · exact absurd ends (never value)
    · exact ⟨interval, member, value, given, (own interval value).mp ends⟩
  · rintro ⟨interval, member, value, given, large⟩
    exact ⟨interval.slot, slot_mem_slots interval member, value, given, (own interval _).mpr large⟩

theorem finish_cases (progress : Progress) :
    (progress.problems = [] ∧ finish inputs progress = .ok progress.settings) ∨
      ∃ problems, progress.problems ⊆ problems ∧
        finish inputs progress = .error (.invalid problems) := by
  rw [finish]
  split
  · rename_i none
    rw [List.isEmpty_iff, List.append_eq_nil_iff] at none
    exact .inl ⟨none.1, rfl⟩
  · exact .inr ⟨_, List.subset_append_left .., rfl⟩

/-- The three ends of the checks. -/
theorem make_cases :
    ((∃ slot ∈ slots, Ends inputs slot) ∧ make inputs = .error .tooLarge) ∨
      (¬∃ slot ∈ slots, Ends inputs slot) ∧ ∃ finished,
        slots.foldlM (take inputs) { settings := {}, problems := [] } = .ok finished ∧
          ((finished.problems = [] ∧ make inputs = .ok finished.settings) ∨
            ∃ problems, finished.problems ⊆ problems ∧
              make inputs = .error (.invalid problems)) := by
  rw [make_eq]
  rcases run_ends_iff inputs slots { settings := {}, problems := [] } with ⟨ends, ran⟩ |
    ⟨whole, finished, ran⟩
  · exact .inl ⟨ends, by rw [ran]; rfl⟩
  · refine .inr ⟨whole, finished, ran, ?_⟩
    rw [ran]
    exact finish_cases inputs finished

/-- Problems are not even listed exactly if an interval is beyond every double. -/
theorem make_tooLarge_iff :
    make inputs = .error .tooLarge ↔
      ∃ interval ∈ intervals, ∃ value, inputs.value? interval.name = some value ∧
        parseInterval value = .error (.duration .tooLarge) := by
  rw [← ends_iff]
  rcases make_cases inputs with ⟨ends, made⟩ | ⟨whole, _, _, ⟨_, made⟩ | ⟨_, _, made⟩⟩
  · exact iff_of_true made ends
  · exact iff_of_false (by simp [made]) whole
  · exact iff_of_false (by simp [made]) whole

theorem interval_of_make (settings : Settings) (made : make inputs = .ok settings)
    (interval : Interval) (member : interval ∈ intervals) :
    (inputs.value? interval.name = none ∧ interval.get settings = interval.get {}) ∨
      ∃ value, inputs.value? interval.name = some value ∧
        checkDuration value = .ok (interval.get settings) := by
  rcases make_cases inputs with ⟨_, ended⟩ | ⟨_, finished, ran, ⟨none, ended⟩ | ⟨_, _, ended⟩⟩
  all_goals
    rw [made] at ended
    cases ended
  rcases interval_of_run inputs interval member _ finished ran with absent |
    ⟨value, given, accepted | ⟨fault, _, listed⟩⟩
  · exact .inl absent
  · exact .inr ⟨value, given, accepted⟩
  · rw [none] at listed
    cases listed

/-- A value that is refused as an interval is among the problems. -/
theorem make_of_wrong (interval : Interval) (member : interval ∈ intervals) (value : Document)
    (fault : SettingFault) (given : inputs.value? interval.name = some value)
    (wrong : checkDuration value = .wrong fault) :
    make inputs = .error .tooLarge ∨
      ∃ problems, make inputs = .error (.invalid problems) ∧ (interval.name, fault) ∈ problems := by
  rcases make_cases inputs with ⟨_, ended⟩ | ⟨_, finished, ran, ended⟩
  · exact .inl ended
  have listed : (interval.name, fault) ∈ finished.problems := by
    rcases interval_of_run inputs interval member _ finished ran with ⟨absent, _⟩ |
      ⟨own, ownGiven, verdict⟩
    · rw [given] at absent
      cases absent
    · rw [given] at ownGiven
      cases ownGiven
      rw [wrong] at verdict
      rcases verdict with accepted | ⟨_, same, listed⟩
      · cases accepted
      · cases same
        exact listed
  rcases ended with ⟨none, _⟩ | ⟨problems, more, ended⟩
  · rw [none] at listed
    cases listed
  · exact .inr ⟨problems, ended, more listed⟩

/-!
## Libraries

What is relied on of the library that makes settings: it has an interval parsed, takes what comes of
it, and lists the refusals.
-/

/-- Whether a library makes settings of intervals as their parser has them. -/
structure Validates (library : SettingsLibrary) : Prop where
  /-- An interval for which nothing is given keeps its default. -/
  unset : ∀ interval ∈ intervals, ∀ inputs settings, library.make inputs = .ok settings →
    library.value? inputs interval.name = none → interval.get settings = interval.get {}
  /-- A value that is given is parsed, and settings are only made of what the parser accepts. -/
  parsed : ∀ interval ∈ intervals, ∀ inputs settings value, library.make inputs = .ok settings →
    library.value? inputs interval.name = some value →
      parseInterval value = .ok (interval.get settings)
  /-- A refusal of the parser is listed with the name of the setting, if problems are listed. -/
  listed : ∀ interval ∈ intervals, ∀ inputs value fault,
    library.value? inputs interval.name = some value → parseInterval value = .error fault →
      fault.isRefusal = true → library.make inputs = .error .tooLarge ∨
        ∃ problems, library.make inputs = .error (.invalid problems) ∧
          (interval.name, .interval fault) ∈ problems
  /-- Problems are not listed exactly if the parser fails without a refusal. -/
  escaped : ∀ inputs, library.make inputs = .error .tooLarge ↔
    ∃ interval ∈ intervals, ∃ value, library.value? inputs interval.name = some value ∧
      parseInterval value = .error (.duration .tooLarge)
  /-- The values in an environment are texts. -/
  environment : ∀ environment name value,
    library.value? { arguments := [], environment } name = some value → ∃ text, value = .text text

theorem validates_library : Validates library where
  unset interval member inputs settings made absent := by
    rcases interval_of_make inputs settings made interval member with ⟨_, same⟩ |
      ⟨value, given, _⟩
    · exact same
    · rw [show inputs.value? interval.name = none from absent] at given
      cases given
  parsed interval member inputs settings value made given := by
    rcases interval_of_make inputs settings made interval member with ⟨absent, _⟩ |
      ⟨own, ownGiven, checked⟩
    · rw [show inputs.value? interval.name = some value from given] at absent
      cases absent
    · obtain rfl := Option.some.inj (ownGiven.symm.trans given)
      exact (checkDuration_eq_ok_iff _ _).mp checked
  listed interval member inputs value fault given refused refusal :=
    make_of_wrong inputs interval member value _ given (checkDuration_of_refusal refused refusal)
  escaped := make_tooLarge_iff
  environment environment name value given := by
    obtain ⟨entry, _, rfl⟩ := Option.map_eq_some_iff.mp given
    exact ⟨entry.2, rfl⟩

section Validates

variable {library : SettingsLibrary} (validates : Validates library)

include validates

/-- Nothing is done for an environment that gives no settings. -/
theorem Validates.withSettings (invocation : Invocation) (workspace : Workspace)
    (work : Settings → CommandReport) (uses : invocation.libraries.settings = library)
    (refused : ∀ settings,
      library.make { arguments := [], environment := invocation.environment } ≠ .ok settings) :
    ∃ problems,
      library.make { arguments := [], environment := invocation.environment } =
          .error (.invalid problems) ∧
        Command.withSettings invocation workspace work =
          CommandReport.refusal workspace 1 (Command.refusedSettings problems.length) := by
  cases made : library.make { arguments := [], environment := invocation.environment } with
  | ok settings => exact absurd made (refused settings)
  | error error =>
      cases error with
      | invalid problems => exact ⟨problems, rfl, by rw [Command.withSettings, uses, made]⟩
      | tooLarge =>
          obtain ⟨interval, _, value, given, large⟩ := (validates.escaped _).mp made
          obtain ⟨text, rfl⟩ := validates.environment _ _ _ given
          obtain ⟨number, same, _⟩ := (parseInterval_eq_tooLarge_iff _).mp large
          cases same

/-- Every interval in settings is greater than zero unless NaN was given for it, which is let through.
All other values that are not greater than zero are refused, and nothing is done before. -/
theorem intervals_are_positive_or_nan (inputs : Inputs) (interval : Interval)
    (member : interval ∈ intervals) :
    (∀ value seconds, parseInterval value = .ok seconds ↔
      ofDocument value = .ok seconds ∧ (0.0 < seconds ∨ IsNotANumber value)) ∧
    (∀ settings, library.make inputs = .ok settings →
      (0.0 < interval.get settings ↔
        ¬∃ value, library.value? inputs interval.name = some value ∧ IsNotANumber value) ∧
      ((interval.get settings).isNaN = true ↔
        ∃ value, library.value? inputs interval.name = some value ∧ IsNotANumber value)) ∧
    (∀ value, library.value? inputs interval.name = some value → ¬IsNotANumber value →
      (∀ seconds, ofDocument value = .ok seconds → ¬0.0 < seconds) →
        library.make inputs = .error .tooLarge ∨
          ∃ problems fault, library.make inputs = .error (.invalid problems) ∧
            (interval.name, fault) ∈ problems) ∧
    (library.make inputs = .error .tooLarge ↔
      ∃ other ∈ intervals, ∃ number, library.value? inputs other.name = some (.integer number) ∧
        Binary64.ofInt? number = none) ∧
    ∀ invocation workspace work, invocation.libraries.settings = library →
      inputs = { arguments := [], environment := invocation.environment } →
        (∀ settings, library.make inputs ≠ .ok settings) → ∃ problems,
          library.make inputs = .error (.invalid problems) ∧
            Command.withSettings invocation workspace work =
              CommandReport.refusal workspace 1 (Command.refusedSettings problems.length) := by
  have tooLarge : library.make inputs = .error .tooLarge ↔
      ∃ other ∈ intervals, ∃ number, library.value? inputs other.name = some (.integer number) ∧
        Binary64.ofInt? number = none := by
    rw [validates.escaped inputs]
    constructor
    · rintro ⟨other, listed, value, given, large⟩
      obtain ⟨number, rfl, beyond⟩ := (parseInterval_eq_tooLarge_iff value).mp large
      exact ⟨other, listed, number, given, beyond⟩
    · rintro ⟨other, listed, number, given, beyond⟩
      exact ⟨other, listed, _, given, (parseInterval_eq_tooLarge_iff _).mpr ⟨number, rfl, beyond⟩⟩
  refine ⟨parseInterval_eq_ok_iff, ?_, ?_, tooLarge, ?_⟩
  · intro settings made
    cases given : library.value? inputs interval.name with
    | none =>
        have high := (intervals_lawful interval member).1
        rw [← validates.unset interval member inputs settings made given] at high
        simp only [reduceCtorEq, false_and, exists_false, not_false_eq_true, iff_true, iff_false]
        exact ⟨high, fun nan => Binary64.not_lt_of_isNaN _ nan high⟩
    | some value =>
        have accepted := validates.parsed interval member inputs settings value made given
        simp only [Option.some.injEq, exists_eq_left']
        exact interval_of_parse accepted
  · intro value given other low
    obtain ⟨fault, refused, refusal | rfl⟩ := exists_fault value other low
    · rcases validates.listed interval member inputs value fault given refused refusal with ended |
        ⟨problems, ended, listed⟩
      · exact .inl ended
      · exact .inr ⟨problems, _, ended, listed⟩
    -- Whatever else is given, an integer beyond every double is reported alone.
    · exact .inl ((validates.escaped inputs).mpr ⟨interval, member, value, given, refused⟩)
  · rintro invocation workspace work uses rfl refused
    exact validates.withSettings invocation workspace work uses refused

end Validates

/-- A quarter of a second between stores, as an argument. -/
def quarterInputs : Inputs :=
  { arguments := [("write_interval", .float 0.25)], environment := [] }

theorem intervals_are_positive_or_nan_quarter :
    ∃ settings, library.make quarterInputs = .ok settings ∧ 0.0 < settings.writeInterval := by
  have made : library.make quarterInputs = .ok { writeInterval := 0.25 } := by rfl
  refine ⟨_, made, ?_⟩
  obtain ⟨_, positive, _⟩ :=
    intervals_are_positive_or_nan validates_library quarterInputs _ (.head _)
  refine (positive _ made).1.mpr ?_
  have number : (0.25 : Float).isNaN = false := by decide
  rintro ⟨value, given, nan⟩
  cases given
  exact Bool.false_ne_true (number.symm.trans nan)

/-- NaN is an interval, and an environment with `nan` gives settings with one that is not greater
than zero. -/
theorem nan_interval_is_accepted :
    (∃ seconds, parseInterval (.text "nan") = .ok seconds ∧ seconds.isNaN = true ∧
        ¬0.0 < seconds) ∧
      ∃ settings,
        library.make { arguments := [], environment := [("WRITE_INTERVAL", "nan")] } =
            .ok settings ∧
          settings.writeInterval.isNaN = true ∧ ¬0.0 < settings.writeInterval :=
  ⟨⟨0.0 / 0.0, by rfl, by decide, by decide⟩,
    { writeInterval := 0.0 / 0.0 }, by rfl, by decide, by decide⟩

end Settings

end EventForge
