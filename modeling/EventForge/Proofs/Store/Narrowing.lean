import EventForge.Store.Event
import EventForge.Proofs.Outcome

/-!
# Narrowing

A column of a width holds a signed integer of as many bits.  An integer narrowed to a width becomes
the only integer of that width that has the same lowest bits.  What narrowing twice, narrowing the
parts of a sum and decoding a decoded row give follows from the bits alone.
-/

namespace EventForge.Codec

open Outcome

/-!
## Wrapping integers

The signed integer of a width that agrees with a value in its lowest bits is the balanced remainder
of the value, and the value itself if it has that width.
-/

theorem twoTo_pred (width : Nat) (positive : 0 < width) :
    (twoTo width : Int) = 2 * (twoTo (width - 1) : Int) := by
  obtain ⟨less, rfl⟩ : ∃ less, width = less + 1 := ⟨width - 1, by omega⟩
  have power : twoTo (less + 1) = 2 * twoTo less := by
    change 2 ^ (less + 1) = 2 * 2 ^ less
    rw [Nat.pow_succ, Nat.mul_comm]
  rw [power]
  simp

/-- A number has no more digits than its bit length says. -/
theorem lt_twoTo_bitLength (number : Nat) : number < twoTo (Binary64.bitLength number) := by
  unfold Binary64.bitLength
  split
  · rename_i zero
    rw [zero]
    decide
  · exact Nat.lt_log2_self

/-- Wrapping gives the balanced remainder. -/
theorem wrap_eq_bmod (value : Int) (width : Nat) (positive : 0 < width) :
    wrap value width = value.bmod (twoTo width) := by
  have double := twoTo_pred width positive
  have half : ((twoTo width : Int) + 1) / 2 = twoTo (width - 1) := by omega
  unfold wrap Int.bmod
  simp only [half]
  split
  · -- The value has fewer digits than the width, so that it is less than half of the modulus.
    rename_i short
    have digits := lt_twoTo_bitLength value.natAbs
    have larger : twoTo (Binary64.bitLength value.natAbs) ≤ twoTo (width - 1) :=
      Nat.pow_le_pow_right (by decide) (by omega)
    by_cases negative : value < 0
    · have shifted : value % (twoTo width : Int) = value + twoTo width := by
        rw [← Int.add_mul_emod_self_left value (twoTo width) 1, Int.mul_one]
        exact Int.emod_eq_of_lt (by omega) (by omega)
      rw [shifted, if_neg (by omega)]
      omega
    · have same : value % (twoTo width : Int) = value := Int.emod_eq_of_lt (by omega) (by omega)
      rw [same, if_pos (by omega)]
  · split
    · rw [if_neg (by omega)]
    · rw [if_pos (by omega)]

/-- An integer within a width is left as it is. -/
theorem wrap_eq_self (value : Int) (width : Nat) (positive : 0 < width)
    (least : -(twoTo (width - 1) : Int) ≤ value) (most : value < (twoTo (width - 1) : Int)) :
    wrap value width = value := by
  have double := twoTo_pred width positive
  rw [wrap_eq_bmod value width positive]
  exact Int.bmod_eq_of_le (by omega) (by omega)

/-- Of two widths that an integer is wrapped to, one after the other, the smaller one counts. -/
theorem wrap_wrap (value : Int) (first second : Nat) (firstPositive : 0 < first)
    (secondPositive : 0 < second) :
    wrap (wrap value first) second = wrap value (min first second) := by
  by_cases narrower : first ≤ second
  · -- What has the first width has the second one, too.
    have double := twoTo_pred first firstPositive
    have nonzero : 0 < twoTo first := Nat.two_pow_pos first
    have larger : twoTo (first - 1) ≤ twoTo (second - 1) :=
      Nat.pow_le_pow_right (by decide) (by omega)
    have least := @Int.le_bmod value _ nonzero
    have most := @Int.bmod_lt value _ nonzero
    rw [Nat.min_eq_left narrower]
    apply wrap_eq_self _ _ secondPositive <;> rw [wrap_eq_bmod value first firstPositive] <;> omega
  · have divides : twoTo second ∣ twoTo first := Nat.pow_dvd_pow 2 (by omega)
    rw [Nat.min_eq_right (by omega), wrap_eq_bmod value first firstPositive,
      wrap_eq_bmod _ second secondPositive, wrap_eq_bmod value second secondPositive,
      Int.bmod_bmod_of_dvd divides]

theorem wrap_add (first second : Int) (width : Nat) (positive : 0 < width) :
    wrap (first + second) width = wrap (wrap first width + wrap second width) width := by
  simp only [wrap_eq_bmod _ width positive]
  exact Int.add_bmod first second (twoTo width)

/-!
## Agreement in the lowest bits
-/

/-- The widths to which integers can be narrowed. -/
def IsWidth (width : Int) : Prop := 0 < width ∧ width < endlessWidth

/-- A signed integer of a width that agrees with a value in its lowest bits. -/
structure Narrows (value width number : Int) : Prop where
  least : -(twoTo (width.toNat - 1) : Int) ≤ number
  most : number < (twoTo (width.toNat - 1) : Int)
  agrees : number % (twoTo width.toNat : Int) = value % (twoTo width.toNat : Int)

/-- Integers can be narrowed to the widths of the types of fields. -/
theorem isWidth_of_known (width : Nat) (known : width = 32 ∨ width = 64) : IsWidth width := by
  have large : (64 : Int) < endlessWidth := by decide
  exact ⟨by omega, by omega⟩

variable {width : Int}

/-- Wrapping gives the only integer of the width with the same lowest bits. -/
theorem narrows_iff (value number : Int) (positive : 0 < width) :
    Narrows value width number ↔ number = wrap value width.toNat := by
  have positive : 0 < width.toNat := by omega
  have double := twoTo_pred width.toNat positive
  have nonzero : 0 < twoTo width.toNat := Nat.two_pow_pos _
  rw [wrap_eq_bmod value _ positive]
  constructor
  · rintro ⟨least, most, agrees⟩
    calc number = number.bmod (twoTo width.toNat) :=
          (Int.bmod_eq_of_le (by omega) (by omega)).symm
      _ = (number % (twoTo width.toNat : Int)).bmod (twoTo width.toNat) := (Int.emod_bmod ..).symm
      _ = (value % (twoTo width.toNat : Int)).bmod (twoTo width.toNat) := by rw [agrees]
      _ = value.bmod (twoTo width.toNat) := Int.emod_bmod ..
  · rintro rfl
    have least := @Int.le_bmod value _ nonzero
    have most := @Int.bmod_lt value _ nonzero
    exact ⟨by omega, by omega, Int.bmod_emod⟩

/-- Narrowing succeeds at the widths that integers can be narrowed to, and at no others. -/
theorem narrow_eq_ok_iff (value width number : Int) :
    narrow value width = .ok number ↔ IsWidth width ∧ Narrows value width number := by
  unfold narrow IsWidth
  split
  · rename_i notPositive
    simp only [reduceCtorEq, false_iff]
    omega
  · rename_i positive
    rw [narrows_iff value number (by omega)]
    split
    · simp only [reduceCtorEq, false_iff]
      omega
    · rename_i counted
      have proper : 0 < width ∧ width < endlessWidth := by omega
      simp [proper, eq_comm]

theorem narrow_eq_wrap (value : Int) (proper : IsWidth width) :
    narrow value width = .ok (wrap value width.toNat) :=
  (narrow_eq_ok_iff value width _).mpr ⟨proper, (narrows_iff value _ proper.1).mpr rfl⟩

/-- An integer of a width is left as it is. -/
theorem narrow_narrowed (value number : Int) (narrowed : narrow value width = .ok number) :
    narrow number width = .ok number := by
  obtain ⟨proper, least, most, -⟩ := (narrow_eq_ok_iff value width number).mp narrowed
  exact (narrow_eq_ok_iff number width number).mpr ⟨proper, least, most, rfl⟩

/-- Of two widths that an integer is narrowed to, one after the other, the smaller one counts. -/
theorem narrow_narrow (value first second : Int) (firstProper : IsWidth first)
    (secondProper : IsWidth second) :
    (narrow value first >>= fun number => narrow number second) =
      narrow value (min first second) := by
  have smaller : IsWidth (min first second) := by
    unfold IsWidth at *
    omega
  have widths : (min first second).toNat = min first.toNat second.toNat := by omega
  have firstPositive := firstProper.1
  have secondPositive := secondProper.1
  rw [narrow_eq_wrap value firstProper, ok_bind, narrow_eq_wrap _ secondProper,
    narrow_eq_wrap value smaller, wrap_wrap value _ _ (by omega) (by omega), widths]

/-- Other widths are refused whatever the integer. -/
theorem narrow_refused (refused : ¬IsWidth width) :
    ∃ fault, ∀ value, narrow value width = .error fault := by
  unfold IsWidth at refused
  unfold narrow
  split
  · exact ⟨_, fun _ => rfl⟩
  · exact ⟨.endlessWidth, fun _ => if_pos (by omega)⟩

/-- A sum is narrowed by narrowing its parts first. -/
theorem narrow_add (first second width : Int) :
    narrow (first + second) width =
      narrow first width >>= fun firstNumber =>
        narrow second width >>= fun secondNumber => narrow (firstNumber + secondNumber) width := by
  by_cases proper : IsWidth width
  · have positive := proper.1
    simp only [narrow_eq_wrap _ proper, ok_bind]
    rw [← wrap_add first second width.toNat (by omega)]
  · obtain ⟨fault, refused⟩ := narrow_refused proper
    simp only [refused, error_bind]

/-!
## Rows of integers
-/

/-- A missing value is decoded as zero is. -/
theorem narrow_zero (proper : IsWidth width) : narrow 0 width = .ok 0 := by
  have positive := proper.1
  have nonzero : 0 < twoTo (width.toNat - 1) := Nat.two_pow_pos _
  rw [narrow_eq_wrap 0 proper, wrap_eq_self 0 width.toNat (by omega) (by omega) (by omega)]

/-- What has been decoded once is decoded to itself. -/
theorem decode_decoded (value : Document) (number : Int) (proper : IsWidth width)
    (decoded : decode value width = .ok number) :
    decode (.integer number) width = .ok number := by
  change narrow number width = .ok number
  have narrowed : ∃ whole, narrow whole width = .ok number := by
    unfold decode at decoded
    split at decoded
    · obtain rfl : 0 = number := Except.ok.inj decoded
      exact ⟨0, narrow_zero proper⟩
    · obtain ⟨whole, -, narrowed⟩ := (bind_eq_ok_iff _ _ _).mp decoded
      exact ⟨whole, narrowed⟩
  obtain ⟨whole, narrowed⟩ := narrowed
  exact narrow_narrowed whole number narrowed

/-- By induction on the columns, whose values have been decoded one by one. -/
theorem mapM_decode_decoded (columns : List (Document × Int)) (numbers : List Int)
    (proper : ∀ column ∈ columns, IsWidth column.2)
    (decoded : columns.mapM (fun column => decode column.1 column.2) = .ok numbers) :
    ((numbers.map Document.integer).zip (columns.map Prod.snd)).mapM
      (fun column => decode column.1 column.2) = .ok numbers := by
  have each := (mapM_eq_ok_iff _ _ _).mp decoded
  clear decoded
  induction each with
  | nil => rfl
  | @cons column number columns numbers own _ ih =>
      obtain ⟨ownProper, restProper⟩ := List.forall_mem_cons.mp proper
      have again := decode_decoded column.1 number ownProper own
      simp only [List.map_cons, List.zip_cons_cons, List.mapM_cons, again, ok_bind, ih restProper]
      rfl

/-- A row that has been decoded is decoded to itself. -/
theorem decodeRow_decoded (row : List Document) (widths numbers : List Int)
    (proper : ∀ width ∈ widths, IsWidth width) (decoded : decodeRow row widths = .ok numbers) :
    decodeRow (numbers.map Document.integer) widths = .ok numbers := by
  unfold decodeRow at decoded ⊢
  split at decoded
  · cases decoded
  · rename_i sameLength
    have length := (mapM_positions _ _ _ decoded).1
    have again := mapM_decode_decoded (row.zip widths) numbers
      (fun column member => proper column.2 (List.of_mem_zip member).2) decoded
    rw [List.map_snd_zip (by omega)] at again
    rw [List.length_zip] at length
    rwa [if_neg (by rw [List.length_map]; omega)]

/-- Rows of integers and missing values are decoded. -/
theorem decodeRow_of_integers (row : List Document) (widths : List Int)
    (integers : ∀ value ∈ row, value = .null ∨ ∃ number, value = .integer number)
    (sameLength : row.length = widths.length) (proper : ∀ width ∈ widths, IsWidth width) :
    ∃ numbers, decodeRow row widths = .ok numbers := by
  have each : ∀ column ∈ row.zip widths, ∃ number, decode column.1 column.2 = .ok number := by
    intro column member
    have ownProper := proper column.2 (List.of_mem_zip member).2
    rcases integers column.1 (List.of_mem_zip member).1 with missing | ⟨number, whole⟩
    · exact ⟨0, by rw [missing]; rfl⟩
    · exact ⟨_, by rw [whole]; exact narrow_eq_wrap number ownProper⟩
  have decoded := mapM_ok_or_error (fun column => decode column.1 column.2) (fun _ => True)
    (fun _ => False) (row.zip widths) (by simpa using each)
  rw [decodeRow, if_neg (by omega)]
  simpa using decoded

/-!
## Narrowing to the widths that can be counted
-/

/-- Narrowing an integer to a width gives the only signed integer of the width with the same lowest
bits, so that of two widths the smaller one counts, a sum can be narrowed part by part, and a decoded
row is decoded to itself.  A width whose power of two has no room is refused. -/
theorem narrowing_keeps_lowest_bits :
    (∀ value width, IsWidth width → ∃ number, narrow value width = .ok number ∧
      ∀ other, Narrows value width other ↔ other = number) ∧
    (∀ value width, endlessWidth ≤ width → narrow value width = .error .endlessWidth) ∧
    (∀ value first second, IsWidth first → IsWidth second →
      (narrow value first >>= fun number => narrow number second) =
        narrow value (min first second)) ∧
    (∀ first second width, narrow (first + second) width =
      narrow first width >>= fun firstNumber =>
        narrow second width >>= fun secondNumber => narrow (firstNumber + secondNumber) width) ∧
    ∀ row widths, (∀ value ∈ row, value = .null ∨ ∃ number, value = .integer number) →
      row.length = widths.length → (∀ width ∈ widths, IsWidth width) →
      ∃ numbers, decodeRow row widths = .ok numbers ∧
        decodeRow (numbers.map Document.integer) widths = .ok numbers := by
  refine ⟨?bits, ?endless, narrow_narrow, narrow_add, ?rows⟩
  case bits =>
    intro value width proper
    exact ⟨_, narrow_eq_wrap value proper, fun other => narrows_iff value other proper.1⟩
  case endless =>
    intro value width endless
    have some : (0 : Int) < endlessWidth := by decide
    rw [narrow, if_neg (by omega), if_pos endless]
  case rows =>
    intro row widths integers sameLength proper
    obtain ⟨numbers, decoded⟩ := decodeRow_of_integers row widths integers sameLength proper
    exact ⟨numbers, decoded, decodeRow_decoded row widths numbers proper decoded⟩

/-- The least integer too large for 32 bits wraps to the most negative one, a row with a missing
value and a large one is decoded, and `twoTo 70` bits are refused. -/
theorem narrowing_keeps_lowest_bits_at_edge :
    (IsWidth 32 ∧ narrow 2147483648 32 = .ok (-2147483648) ∧
      ∀ other, Narrows 2147483648 32 other ↔ other = -2147483648) ∧
    (endlessWidth ≤ (twoTo 70 : Int) ∧ narrow 0 (twoTo 70) = .error .endlessWidth) ∧
    (IsWidth 64 ∧ (narrow 4294967301 64 >>= fun number => narrow number 32) =
      narrow 4294967301 (min 64 32)) ∧
    (∃ numbers, decodeRow [.null, .integer 4294967301] [64, 32] = .ok numbers ∧
      numbers = [0, 5] ∧
      decodeRow (numbers.map Document.integer) [64, 32] = .ok numbers) := by
  obtain ⟨bits, endless, twice, -, rows⟩ := narrowing_keeps_lowest_bits
  have first : IsWidth 32 := ⟨by decide, by decide⟩
  have second : IsWidth 64 := ⟨by decide, by decide⟩
  refine ⟨⟨first, ?_⟩, ⟨by decide, endless 0 _ (by decide)⟩, ⟨second, twice _ 64 32 second first⟩, ?_⟩
  · obtain ⟨number, narrowed, only⟩ := bits 2147483648 32 first
    obtain rfl : -2147483648 = number := Except.ok.inj narrowed
    exact ⟨narrowed, only⟩
  · obtain ⟨numbers, decoded, again⟩ := rows [.null, .integer 4294967301] [64, 32] (by simp) rfl
      (by simp [first, second])
    obtain rfl : [0, 5] = numbers := Except.ok.inj decoded
    exact ⟨_, decoded, rfl, again⟩

/-- No integer is narrowed to `twoTo 70` bits: a missing value is decoded to zero there, but zero is
not decoded again. -/
theorem endless_width_is_refused :
    0 < (twoTo 70 : Int) ∧ (∀ number, narrow 0 (twoTo 70) ≠ .ok number) ∧
    decodeRow [.null] [twoTo 70] = .ok [0] ∧
    decodeRow [.integer 0] [twoTo 70] = .error .endlessWidth := by
  refine ⟨by decide, ?_, rfl, rfl⟩
  rintro number ⟨⟩

end EventForge.Codec
