import EventForge.Config.Value
import EventForge.Proofs.Number.Reading
import Mathlib.Data.List.Forall2

/-!
# Durations

A text that is no number on its own names a duration exactly if it can be cut into decimal numbers
with a unit directly behind each.  There is at most one such cut, and scanning for numbers with units
finds it.
-/

namespace EventForge

namespace TimeUnit

/-- What can stand behind a unit: the beginning of a number, or nothing. -/
def IsEnd (rest : Text) : Prop :=
  ∀ point ∈ rest.head?, point.isDecimal = true ∨ point = CodePoint.ofChar '.'

/-- A minute is not the beginning of a millisecond where no letter follows. -/
theorem dropLead?_minute (rest : Text) (ends : IsEnd rest) :
    Text.dropLead? (("m" : Text) ++ rest) "ms" = none := by
  cases found : Text.dropLead? (("m" : Text) ++ rest) "ms" with
  | none => rfl
  | some behind =>
      have split := (Text.dropLead?_eq_some_iff _ _ _).mp found
      have longer : ("ms" : Text) = ("m" : Text) ++ ("s" : Text) := by decide
      rw [longer, List.append_assoc, List.append_cancel_left_eq] at split
      rcases ends (CodePoint.ofChar 's') (by rw [split]; rfl) with decimal | mark
      · exact absurd decimal (by decide)
      · exact absurd mark (by decide)

/-- A unit is read in full where nothing behind it could be more of a unit. -/
theorem read?_spelling (spelling rest : Text) (unit : TimeUnit)
    (spelled : (spelling, unit) ∈ spellings) (ends : IsEnd rest) :
    read? (spelling ++ rest) = some (unit, rest) := by
  have minute := dropLead?_minute rest ends
  simp only [spellings, List.mem_cons, Prod.mk.injEq, List.not_mem_nil, or_false] at spelled
  rcases spelled with ⟨rfl, rfl⟩ | ⟨rfl, rfl⟩ | ⟨rfl, rfl⟩ | ⟨rfl, rfl⟩ | ⟨rfl, rfl⟩ | ⟨rfl, rfl⟩ |
    ⟨rfl, rfl⟩
  all_goals
    simp (disch := decide) only [read?, spellings, List.findSome?_cons, Text.dropLead?_append,
      Text.dropLead?_of_areApart, minute, Option.map_some, Option.map_none]

theorem of_read? (text rest : Text) (unit : TimeUnit) (found : read? text = some (unit, rest)) :
    ∃ spelling, (spelling, unit) ∈ spellings ∧ text = spelling ++ rest := by
  obtain ⟨entry, member, read⟩ := List.exists_of_findSome?_eq_some found
  obtain ⟨behind, dropped, same⟩ := Option.map_eq_some_iff.mp read
  cases same
  exact ⟨entry.1, member, (Text.dropLead?_eq_some_iff _ _ _).mp dropped⟩

/-- Every unit begins with a letter. -/
theorem spelling_begins (spelling : Text) (unit : TimeUnit) (spelled : (spelling, unit) ∈ spellings) :
    ∃ first rest, spelling = first :: rest ∧ first.isDecimal = false ∧
      first ≠ CodePoint.ofChar '.' := by
  simp only [spellings, List.mem_cons, Prod.mk.injEq, List.not_mem_nil, or_false] at spelled
  rcases spelled with ⟨rfl, rfl⟩ | ⟨rfl, rfl⟩ | ⟨rfl, rfl⟩ | ⟨rfl, rfl⟩ | ⟨rfl, rfl⟩ | ⟨rfl, rfl⟩ |
    ⟨rfl, rfl⟩
  all_goals exact ⟨_, _, rfl, by decide, by decide⟩

end TimeUnit

namespace Duration

/-!
## The grammar
-/

def IsDigits (text : Text) : Prop := text ≠ [] ∧ ∀ point ∈ text, point.isDecimal = true

instance (text : Text) : Decidable (IsDigits text) :=
  decidable_of_iff (text ≠ [] ∧ text.all CodePoint.isDecimal = true) (by simp [IsDigits])

/-- Decimal numbers: digits of any script, with at most one point among them. -/
inductive IsNumber : Text → Prop
  | whole {digits : Text} (isWhole : IsDigits digits) : IsNumber digits
  | pointed {digits : Text} (isWhole : IsDigits digits) : IsNumber (digits ++ ".")
  | fractional {digits fraction : Text} (isWhole : IsDigits digits)
      (isFraction : IsDigits fraction) : IsNumber (digits ++ "." ++ fraction)
  | bare {fraction : Text} (isFraction : IsDigits fraction) : IsNumber ("." ++ fraction)

/-- A number and the spelling of its unit, as they stand in a text. -/
structure Piece where
  number : Text
  spelling : Text
deriving DecidableEq

namespace Piece

def text (piece : Piece) : Text := piece.number ++ piece.spelling

structure IsValid (piece : Piece) : Prop where
  number : IsNumber piece.number
  spelling : ∃ unit, (piece.spelling, unit) ∈ TimeUnit.spellings

/-- Whether a piece is worth some seconds: the double nearest to its number times its unit. -/
def IsWorth (piece : Piece) (seconds : Float) : Prop :=
  ∃ number unit, Reading.float? piece.number = some number ∧
    (piece.spelling, unit) ∈ TimeUnit.spellings ∧ seconds = number * unit.seconds

end Piece

/-- Whether pieces make up a text. -/
structure IsCut (text : Text) (pieces : List Piece) : Prop where
  inhabited : pieces ≠ []
  valid : ∀ piece ∈ pieces, piece.IsValid
  whole : text = pieces.flatMap Piece.text

/-!
## Reading digits
-/

section

variable {Found : Type} (next : Text → Option Found)

/-- Whether no digit stands at the front of a text. -/
def StopsDigits (text : Text) : Prop := ∀ point ∈ text.head?, point.isDecimal = false

theorem digitsThen?_of_stops (rest : Text) (stops : StopsDigits rest) :
    digitsThen? next rest = none := by
  cases rest with
  | nil => rfl
  | cons point rest => simp [digitsThen?, stops point rfl]

/-- All digits are read if what comes behind them can be read. -/
theorem digitsThen?_digits (digits rest : Text) (found : Found) (isDigits : IsDigits digits)
    (stops : StopsDigits rest) (read : next rest = some found) :
    digitsThen? next (digits ++ rest) = some (digits, found) := by
  obtain ⟨inhabited, decimal⟩ := isDigits
  induction digits with
  | nil => exact absurd rfl inhabited
  | cons point digits ih =>
      have own := decimal point (by simp)
      cases digits with
      | nil => simp [digitsThen?, own, digitsThen?_of_stops next rest stops, read]
      | cons other digits =>
          have others := ih (by simp) fun point member => decimal point (by simp [member])
          rw [List.cons_append, digitsThen?, if_pos own, others]

theorem of_digitsThen? (text digits : Text) (found : Found)
    (read : digitsThen? next text = some (digits, found)) :
    IsDigits digits ∧ ∃ rest, text = digits ++ rest ∧ next rest = some found := by
  induction text generalizing digits with
  | nil => cases read
  | cons point text ih =>
      rw [digitsThen?] at read
      split at read
      · rename_i decimal
        split at read
        · rename_i more _ longer
          cases read
          obtain ⟨⟨_, others⟩, rest, rfl, readRest⟩ := ih more longer
          exact ⟨⟨by simp, by simpa [decimal] using others⟩, rest, rfl, readRest⟩
        · obtain ⟨_, readRest, same⟩ := Option.map_eq_some_iff.mp read
          cases same
          exact ⟨⟨by simp, by simpa using decimal⟩, text, rfl, readRest⟩
      · cases read

theorem of_pointThen? (next : Text → Option (Text × Found)) (text read : Text) (found : Found)
    (isRead : pointThen? next text = some (read, found)) :
    ∃ rest more, text = ("." : Text) ++ rest ∧ next rest = some (more, found) ∧
      read = ("." : Text) ++ more := by
  cases text with
  | nil => cases isRead
  | cons point rest =>
      rw [pointThen?] at isRead
      split at isRead
      · rename_i mark
        obtain ⟨⟨more, _⟩, behind, same⟩ := Option.map_eq_some_iff.mp isRead
        cases same
        exact ⟨rest, more, by rw [mark]; rfl, behind, by rw [mark]; rfl⟩
      · cases isRead

theorem of_optionalThen? (first : (Text → Option Found) → Text → Option (Text × Found))
    (text read : Text) (found : Found) (isRead : optionalThen? first next text = some (read, found)) :
    first next text = some (read, found) ∨ (read = [] ∧ next text = some found) := by
  rw [optionalThen?] at isRead
  split at isRead
  · rename_i longer
    exact .inl (by rw [longer, isRead])
  · obtain ⟨_, behind, same⟩ := Option.map_eq_some_iff.mp isRead
    cases same
    exact .inr ⟨rfl, behind⟩

end

/-!
## Reading numbers and parts
-/

/-- Whether neither a digit nor a point stands at the front of a text. -/
def StopsNumber (text : Text) : Prop :=
  ∀ point ∈ text.head?, point.isDecimal = false ∧ point ≠ CodePoint.ofChar '.'

section

variable {Found : Type} (next : Text → Option Found)

theorem pointThen?_of_stops (next : Text → Option (Text × Found)) (rest : Text)
    (stops : StopsNumber rest) : pointThen? next rest = none := by
  cases rest with
  | nil => rfl
  | cons point rest => simp [pointThen?, (stops point rfl).2]

theorem pointThen?_point (next : Text → Option (Text × Found)) (rest : Text) :
    pointThen? next (("." : Text) ++ rest) =
      (next rest).map fun found => (("." : Text) ++ found.1, found.2) := rfl

theorem stopsDigits_point (rest : Text) : StopsDigits (("." : Text) ++ rest) := by
  rintro point head
  cases head
  decide

/-- The whole number at the front of a text is read if what comes behind it can be read. -/
theorem numberThen?_number (number rest : Text) (found : Found) (isNumber : IsNumber number)
    (stops : StopsNumber rest) (read : next rest = some found) :
    numberThen? next (number ++ rest) = some (number, found) := by
  have stopsDigits : StopsDigits rest := fun point head => (stops point head).1
  have noFraction : optionalThen? fractionThen? next rest = some ([], found) := by
    rw [optionalThen?, fractionThen?, pointThen?_of_stops _ rest stops, read]
    rfl
  cases isNumber with
  | whole isWhole =>
      rw [numberThen?, digitsThen?_digits _ number rest _ isWhole stopsDigits noFraction]
      simp
  | @pointed digits isWhole =>
      have behind : optionalThen? fractionThen? next (("." : Text) ++ rest) =
          some (("." : Text), found) := by
        rw [optionalThen?, fractionThen?, pointThen?_point, optionalThen?,
          digitsThen?_of_stops next rest stopsDigits, read]
        rfl
      rw [numberThen?, List.append_assoc,
        digitsThen?_digits _ digits _ _ isWhole (stopsDigits_point rest) behind]
  | @fractional digits fraction isWhole isFraction =>
      have behind : optionalThen? fractionThen? next (("." : Text) ++ (fraction ++ rest)) =
          some (("." : Text) ++ fraction, found) := by
        rw [optionalThen?, fractionThen?, pointThen?_point, optionalThen?,
          digitsThen?_digits next fraction rest found isFraction stopsDigits read]
        rfl
      rw [numberThen?, List.append_assoc, List.append_assoc,
        digitsThen?_digits _ digits _ _ isWhole (stopsDigits_point _) behind]
      simp
  | @bare fraction isFraction =>
      -- A point is no digit, so what is tried first fails.
      rw [numberThen?, List.append_assoc, digitsThen?_of_stops _ _ (stopsDigits_point _),
        pointThen?_point, digitsThen?_digits next fraction rest found isFraction stopsDigits read]
      rfl

theorem of_fractionThen? (text fraction : Text) (found : Found)
    (read : optionalThen? fractionThen? next text = some (fraction, found)) :
    ∃ rest, text = fraction ++ rest ∧ next rest = some found ∧
      (fraction = [] ∨ fraction = "." ∨ ∃ digits, IsDigits digits ∧ fraction = ("." : Text) ++ digits) := by
  rcases of_optionalThen? next _ text fraction found read with pointed | ⟨rfl, behind⟩
  · obtain ⟨rest, more, rfl, inner, rfl⟩ := of_pointThen? _ text fraction found pointed
    rcases of_optionalThen? next _ rest more found inner with digital | ⟨rfl, behind⟩
    · obtain ⟨isDigits, rest, rfl, behind⟩ := of_digitsThen? next _ more found digital
      exact ⟨rest, by simp, behind, .inr (.inr ⟨more, isDigits, rfl⟩)⟩
    · exact ⟨rest, by simp, behind, .inr (.inl (by simp))⟩
  · exact ⟨text, rfl, behind, .inl rfl⟩

theorem of_numberThen? (text number : Text) (found : Found)
    (read : numberThen? next text = some (number, found)) :
    IsNumber number ∧ ∃ rest, text = number ++ rest ∧ next rest = some found := by
  rw [numberThen?] at read
  split at read
  · rename_i whole fraction _ digital
    cases read
    obtain ⟨isWhole, rest, rfl, inner⟩ := of_digitsThen? _ text whole _ digital
    obtain ⟨rest, rfl, behind, shape⟩ := of_fractionThen? next rest fraction found inner
    refine ⟨?_, rest, by simp, behind⟩
    rcases shape with rfl | rfl | ⟨digits, isFraction, rfl⟩
    · simpa using IsNumber.whole isWhole
    · exact .pointed isWhole
    · simpa using IsNumber.fractional isWhole isFraction
  · obtain ⟨rest, fraction, rfl, inner, rfl⟩ := of_pointThen? _ text number found read
    obtain ⟨isFraction, rest, rfl, behind⟩ := of_digitsThen? next rest fraction found inner
    exact ⟨.bare isFraction, rest, by simp, behind⟩

end

/-- A number with its unit is read in full where a number or nothing follows. -/
theorem part?_piece (piece : Piece) (unit : TimeUnit) (rest : Text)
    (isNumber : IsNumber piece.number) (spelled : (piece.spelling, unit) ∈ TimeUnit.spellings)
    (ends : TimeUnit.IsEnd rest) :
    part? (piece.text ++ rest) = some ({ number := piece.number, unit }, rest) := by
  obtain ⟨first, letters, begins, noDigit, noPoint⟩ := TimeUnit.spelling_begins _ unit spelled
  have stops : StopsNumber (piece.spelling ++ rest) := by
    intro point head
    rw [begins] at head
    cases head
    exact ⟨noDigit, noPoint⟩
  have read := numberThen?_number TimeUnit.read? piece.number _ _ isNumber stops
    (TimeUnit.read?_spelling _ rest unit spelled ends)
  rw [part?, Piece.text, List.append_assoc, read]
  rfl

theorem of_part? (text rest : Text) (part : Part) (read : part? text = some (part, rest)) :
    ∃ spelling, IsNumber part.number ∧ (spelling, part.unit) ∈ TimeUnit.spellings ∧
      text = Piece.text { number := part.number, spelling } ++ rest := by
  obtain ⟨⟨number, unit, behind⟩, found, same⟩ := Option.map_eq_some_iff.mp read
  cases same
  obtain ⟨isNumber, rest, rfl, readUnit⟩ := of_numberThen? _ text number _ found
  obtain ⟨spelling, spelled, rfl⟩ := TimeUnit.of_read? rest behind unit readUnit
  exact ⟨spelling, isNumber, spelled, by simp [Piece.text]⟩

/-!
## Cuts
-/

theorem IsNumber.begins {number : Text} (isNumber : IsNumber number) (rest : Text) :
    ∃ first more, number ++ rest = first :: more ∧
      (first.isDecimal = true ∨ first = CodePoint.ofChar '.') := by
  have ofDigits : ∀ digits more : Text, IsDigits digits → ∃ first others,
      digits ++ more = first :: others ∧
        (first.isDecimal = true ∨ first = CodePoint.ofChar '.') := by
    rintro (_ | ⟨first, digits⟩) more ⟨inhabited, decimal⟩
    · exact absurd rfl inhabited
    · exact ⟨first, digits ++ more, rfl, .inl (decimal first (by simp))⟩
  cases isNumber with
  | whole isWhole => exact ofDigits _ _ isWhole
  | pointed isWhole => rw [List.append_assoc]; exact ofDigits _ _ isWhole
  | fractional isWhole => rw [List.append_assoc, List.append_assoc]; exact ofDigits _ _ isWhole
  | bare => exact ⟨_, _, rfl, .inr rfl⟩

/-- A number or nothing stands at the front of pieces. -/
theorem isEnd_pieces (pieces : List Piece) (valid : ∀ piece ∈ pieces, piece.IsValid) :
    TimeUnit.IsEnd (pieces.flatMap Piece.text) := by
  cases pieces with
  | nil => rintro point ⟨⟩
  | cons piece pieces =>
      obtain ⟨first, more, begins, shape⟩ := (valid piece (by simp)).number.begins
        (piece.spelling ++ pieces.flatMap Piece.text)
      intro point head
      rw [List.flatMap_cons, Piece.text, List.append_assoc, begins] at head
      cases head
      exact shape

/-- The first of some pieces is the part at the front of their text. -/
theorem part?_pieces (piece : Piece) (pieces : List Piece) (unit : TimeUnit)
    (valid : ∀ other ∈ piece :: pieces, other.IsValid)
    (spelled : (piece.spelling, unit) ∈ TimeUnit.spellings) :
    part? ((piece :: pieces).flatMap Piece.text) =
      some ({ number := piece.number, unit }, pieces.flatMap Piece.text) := by
  have ends := isEnd_pieces pieces fun other member => valid other (by simp [member])
  exact part?_piece piece unit _ (valid piece (by simp)).number spelled ends

theorem pieces_ne_nil (piece : Piece) (pieces : List Piece) (valid : piece.IsValid) :
    (piece :: pieces).flatMap Piece.text ≠ [] := by
  obtain ⟨first, more, begins, _⟩ := valid.number.begins
    (piece.spelling ++ pieces.flatMap Piece.text)
  rw [List.flatMap_cons, Piece.text, List.append_assoc, begins]
  exact List.cons_ne_nil _ _

/-- No two lists of pieces make up the same text. -/
theorem pieces_unique (pieces others : List Piece) (valid : ∀ piece ∈ pieces, piece.IsValid)
    (othersValid : ∀ piece ∈ others, piece.IsValid)
    (same : pieces.flatMap Piece.text = others.flatMap Piece.text) : pieces = others := by
  induction pieces generalizing others with
  | nil =>
      cases others with
      | nil => rfl
      | cons other others => exact absurd same.symm (pieces_ne_nil _ _ (othersValid _ (by simp)))
  | cons piece pieces ih =>
      cases others with
      | nil => exact absurd same (pieces_ne_nil _ _ (valid _ (by simp)))
      | cons other others =>
          -- Reading the text once gives the first piece of both cuts and the text behind it.
          obtain ⟨unit, spelled⟩ := (valid piece (by simp)).spelling
          obtain ⟨otherUnit, otherSpelled⟩ := (othersValid other (by simp)).spelling
          have read := part?_pieces piece pieces unit valid spelled
          rw [same, part?_pieces other others otherUnit othersValid otherSpelled] at read
          simp only [Option.some.injEq, Prod.mk.injEq, Part.mk.injEq] at read
          obtain ⟨⟨sameNumber, _⟩, sameRest⟩ := read
          rw [List.flatMap_cons, List.flatMap_cons, sameRest, List.append_cancel_right_eq,
            Piece.text, Piece.text, sameNumber, List.append_cancel_left_eq] at same
          have samePiece : piece = other := by
            cases piece
            cases other
            simp_all
          rw [samePiece, ih others (fun own member => valid own (by simp [member]))
            (fun own member => othersValid own (by simp [member])) sameRest.symm]

/-!
## Adding parts

One turn of the scan takes one piece.
-/

theorem find?_of_part? (text rest : Text) (part : Part) (read : part? text = some (part, rest)) :
    find? text = some (0, part, rest) := by
  cases text with
  | nil => cases read
  | cons point text => rw [find?, read]

theorem part?_of_find? (text rest : Text) (part : Part)
    (found : find? text = some (0, part, rest)) : part? text = some (part, rest) := by
  cases text with
  | nil => cases found
  | cons point text =>
      rw [find?] at found
      split at found
      · rename_i read
        cases found
        exact read
      · obtain ⟨_, _, same⟩ := Option.map_eq_some_iff.mp found
        cases same

theorem addParts?_pieces (fuel : Nat) (sum : Float) (pieces : List Piece) (amounts : List Float)
    (valid : ∀ piece ∈ pieces, piece.IsValid) (worth : List.Forall₂ Piece.IsWorth pieces amounts)
    (enough : pieces.length ≤ fuel) :
    addParts? fuel sum (pieces.flatMap Piece.text) = some (amounts.foldl (· + ·) sum, []) := by
  induction worth generalizing fuel sum with
  | nil => cases fuel <;> rfl
  | @cons piece amount pieces amounts own _ ih =>
      obtain ⟨number, unit, read, spelled, rfl⟩ := own
      cases fuel with
      | zero => simp at enough
      | succ fuel =>
          have found := find?_of_part? _ _ _ (part?_pieces piece pieces unit valid spelled)
          rw [addParts?, found]
          simp only [read]
          exact ih fuel _ (fun other member => valid other (by simp [member])) (by simpa using enough)

/-- What is added up are pieces, and what is left stands behind them. -/
theorem of_addParts? (fuel : Nat) (sum total : Float) (text rest : Text)
    (added : addParts? fuel sum text = some (total, rest)) :
    ∃ pieces : List Piece, (∀ piece ∈ pieces, piece.IsValid) ∧
      text = pieces.flatMap Piece.text ++ rest := by
  induction fuel generalizing sum text with
  | zero =>
      cases added
      exact ⟨[], by simp, rfl⟩
  | succ fuel ih =>
      rw [addParts?] at added
      split at added
      · rename_i part behind found
        split at added
        · obtain ⟨spelling, isNumber, spelled, rfl⟩ :=
            of_part? text behind part (part?_of_find? text behind part found)
          obtain ⟨pieces, valid, rfl⟩ := ih _ behind added
          refine ⟨{ number := part.number, spelling } :: pieces, ?_, by simp⟩
          exact List.forall_mem_cons.mpr ⟨⟨isNumber, part.unit, spelled⟩, valid⟩
        · cases added
      · cases added
        exact ⟨[], by simp, rfl⟩

/-!
## Numbers as doubles
-/

/-- A number with its digits read as ASCII digits: what stands in front of a point, and what stands
from it on. -/
theorem IsNumber.shape {number : Text} (isNumber : IsNumber number) :
    ∃ whole fraction rest, Reading.toAsciiDigits number = whole ++ rest ∧
      Reading.IsPlainDigits whole ∧ Reading.IsPlainDigits fraction ∧
      (rest = [] ∧ fraction = [] ∨ rest = ("." : Text) ++ fraction) ∧
      (whole ≠ [] ∨ fraction ≠ []) := by
  have nothing : Reading.IsPlainDigits [] := by simp [Reading.IsPlainDigits]
  have point : Reading.toAsciiDigits "." = ("." : Text) := by decide
  have image : ∀ digits : Text, IsDigits digits → Reading.IsPlainDigits (Reading.toAsciiDigits digits) ∧
      Reading.toAsciiDigits digits ≠ [] := fun digits isDigits =>
    ⟨Reading.isPlainDigits_toAsciiDigits digits isDigits.2, by
      simpa [Reading.toAsciiDigits] using isDigits.1⟩
  have mapped : ∀ front back : Text, Reading.toAsciiDigits (front ++ back) =
      Reading.toAsciiDigits front ++ Reading.toAsciiDigits back := fun _ _ => List.map_append
  cases isNumber with
  | whole isWhole =>
      exact ⟨_, [], [], (List.append_nil _).symm, (image _ isWhole).1, nothing, .inl ⟨rfl, rfl⟩,
        .inl (image _ isWhole).2⟩
  | pointed isWhole =>
      exact ⟨_, [], ".", by rw [mapped, point], (image _ isWhole).1, nothing, .inr rfl,
        .inl (image _ isWhole).2⟩
  | fractional isWhole isFraction =>
      exact ⟨_, _, _, by rw [mapped, mapped, point, List.append_assoc], (image _ isWhole).1,
        (image _ isFraction).1, .inr rfl, .inl (image _ isWhole).2⟩
  | bare isFraction =>
      exact ⟨[], _, _, by rw [mapped, point]; rfl, nothing, (image _ isFraction).1, .inr rfl,
        .inr (image _ isFraction).2⟩

/-- Every decimal number is read as the double nearest to a decimal fraction without sign. -/
theorem float?_number (number : Text) (isNumber : IsNumber number) :
    ∃ digits exponent, Reading.float? number = some (Reading.scaleDecimal false digits exponent) := by
  obtain ⟨whole, fraction, rest, image, plain, plainFraction, shape, inhabited⟩ := isNumber.shape
  rw [Reading.float?_of_plain number _ image]
  · exact Reading.unsignedDecimal?_shape whole fraction rest plain plainFraction shape inhabited
  · intro point member
    rcases List.mem_append.mp member with own | behind
    · exact .inl (plain point own)
    · rcases shape with ⟨rfl, _⟩ | rfl
      · cases behind
      · rcases List.mem_cons.mp behind with rfl | own
        · exact .inr rfl
        · exact .inl (plainFraction point own)

/-!
## Durations as sums
-/

theorem Piece.IsValid.worth {piece : Piece} (valid : piece.IsValid) :
    ∃ seconds, piece.IsWorth seconds := by
  obtain ⟨isNumber, unit, spelled⟩ := valid
  obtain ⟨digits, exponent, read⟩ := float?_number piece.number isNumber
  exact ⟨_, _, unit, read, spelled, rfl⟩

theorem exists_amounts (pieces : List Piece) (valid : ∀ piece ∈ pieces, piece.IsValid) :
    ∃ amounts, List.Forall₂ Piece.IsWorth pieces amounts := by
  induction pieces with
  | nil => exact ⟨[], .nil⟩
  | cons piece pieces ih =>
      obtain ⟨seconds, own⟩ := (valid piece (by simp)).worth
      obtain ⟨amounts, others⟩ := ih fun other member => valid other (by simp [member])
      exact ⟨seconds :: amounts, .cons own others⟩

theorem length_le_text (pieces : List Piece) (valid : ∀ piece ∈ pieces, piece.IsValid) :
    pieces.length ≤ (pieces.flatMap Piece.text).length := by
  induction pieces with
  | nil => simp
  | cons piece pieces ih =>
      have others := ih fun other member => valid other (by simp [member])
      have own := List.length_pos_of_ne_nil (pieces_ne_nil piece [] (valid piece (by simp)))
      simp only [List.flatMap_cons, List.flatMap_nil, List.append_nil, List.length_append,
        List.length_cons] at own ⊢
      omega

/-- A text that is no number itself is worth the sum of its pieces. -/
theorem ofText?_cut (text : Text) (pieces : List Piece) (amounts : List Float)
    (unread : Reading.float? text.strip = none) (cut : IsCut text.strip pieces)
    (worth : List.Forall₂ Piece.IsWorth pieces amounts) :
    ofText? text = some (amounts.foldl (· + ·) 0.0) := by
  have enough : pieces.length ≤ text.strip.length := by
    rw [cut.whole]
    exact length_le_text pieces cut.valid
  have added := addParts?_pieces _ 0.0 pieces amounts cut.valid worth enough
  have present : text.strip.isEmpty = false := by
    rw [List.isEmpty_eq_false_iff, cut.whole]
    cases pieces with
    | nil => exact absurd rfl cut.inhabited
    | cons piece pieces => exact pieces_ne_nil piece pieces (cut.valid piece (by simp))
  rw [← cut.whole] at added
  simp [ofText?, unread, added, present]

theorem exists_cut (text : Text) (seconds : Float) (unread : Reading.float? text.strip = none)
    (read : ofText? text = some seconds) : ∃ pieces, IsCut text.strip pieces := by
  rw [ofText?] at read
  simp only [unread] at read
  split at read
  · rename_i sum added
    obtain ⟨pieces, valid, whole⟩ := of_addParts? _ _ _ _ _ added
    rw [List.append_nil] at whole
    refine ⟨pieces, ?_, valid, whole⟩
    rintro rfl
    simp [whole] at read
  · cases read

/-- A text that is no number on its own names a duration exactly if it can be cut into numbers with
their units.  There is one way to do so, and the duration is the sum over it, from the left. -/
theorem duration_is_sum_of_pieces (text : Text) (unread : Reading.float? text.strip = none) :
    ((∃ seconds, ofDocument (.text text) = .ok seconds) ↔ ∃ pieces, IsCut text.strip pieces) ∧
      (∀ pieces, IsCut text.strip pieces →
        (∀ others, IsCut text.strip others → others = pieces) ∧
          ∃ amounts, List.Forall₂ Piece.IsWorth pieces amounts ∧
            ofDocument (.text text) = .ok (amounts.foldl (· + ·) 0.0)) ∧
      ((¬∃ pieces, IsCut text.strip pieces) →
        ∃ fault, ofDocument (.text text) = .error fault ∧ fault.fault.kind = .value) := by
  have counts : ∀ pieces, IsCut text.strip pieces →
      ∃ amounts, List.Forall₂ Piece.IsWorth pieces amounts ∧
        ofDocument (.text text) = .ok (amounts.foldl (· + ·) 0.0) := by
    intro pieces cut
    obtain ⟨amounts, worth⟩ := exists_amounts pieces cut.valid
    exact ⟨amounts, worth, by simp only [ofDocument, ofText?_cut text pieces amounts unread cut worth]⟩
  have refuses : (¬∃ pieces, IsCut text.strip pieces) →
      ofDocument (.text text) = .error (.invalid (Document.text text).display) := by
    intro uncut
    have unnamed : ofText? text = none := by
      by_contra named
      obtain ⟨seconds, read⟩ := Option.ne_none_iff_exists'.mp named
      exact uncut (exists_cut text seconds unread read)
    simp only [ofDocument, unnamed]
  refine ⟨⟨?_, ?_⟩, ?_, ?_⟩
  · rintro ⟨seconds, named⟩
    by_contra uncut
    rw [refuses uncut] at named
    cases named
  · rintro ⟨pieces, cut⟩
    obtain ⟨amounts, _, named⟩ := counts pieces cut
    exact ⟨_, named⟩
  · intro pieces cut
    refine ⟨fun others otherCut => ?_, counts pieces cut⟩
    exact pieces_unique others pieces otherCut.valid cut.valid (otherCut.whole.symm.trans cut.whole)
  · intro uncut
    exact ⟨_, refuses uncut, rfl⟩

theorem duration_is_sum_of_pieces_mixed :
    Reading.float? (Text.strip " 1h.5ms") = none ∧
      ∃ seconds, ofDocument (.text " 1h.5ms") = .ok seconds := by
  have unread : Reading.float? (Text.strip " 1h.5ms") = none := by decide
  have hour : Piece.IsValid ⟨"1", "h"⟩ := ⟨.whole (by decide), .hour, by decide⟩
  have half : IsNumber ".5" := @IsNumber.bare "5" (by decide)
  have cut : IsCut (Text.strip " 1h.5ms") [⟨"1", "h"⟩, ⟨".5", "ms"⟩] :=
    { inhabited := List.cons_ne_nil _ _
      valid := by simpa using ⟨hour, half, .millisecond, by decide⟩
      whole := by decide }
  exact ⟨unread, (duration_is_sum_of_pieces " 1h.5ms" unread).1.mpr ⟨_, cut⟩⟩

end Duration

end EventForge
