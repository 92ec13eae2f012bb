import EventForge.Number.Reading
import EventForge.Proofs.Text.Ascii
import EventForge.Proofs.Text.Pieces
import Mathlib

/-!
# Doubles that are read

Every double but NaN has a sign.  A double nearest to a ratio has the sign of the ratio, and sums and
products of positive doubles are positive.  A double with a sign that does not compare as zero or less
is greater than zero.

Texts are read as doubles nearest to ratios, so they have signs, but for the texts that spell NaN.
-/

namespace EventForge.Binary64

open Float.Model

/-- The format of doubles. -/
abbrev format : Format := .binary64

/-- Whether what a double holds has a sign; zeros have one, NaN has none. -/
def HoldsSign (sign : UnpackedFloat.Sign) : UnpackedFloat → Prop
  | .infinity own | .zero own | .finite own _ _ _ => own = sign
  | .notANumber => False

def HasSign (sign : UnpackedFloat.Sign) (number : Float) : Prop :=
  HoldsSign sign number.toModel.unpack

/-!
## Bits

The sign of a double is its first bit.  NaN has ones only for an exponent, and a significand that is
not zero.
-/

theorem holdsSign_packComponents (sign : UnpackedFloat.Sign) (exponent : BitVec format.exponentBits)
    (mantissa : BitVec format.mantissaBitsWithoutImplicit)
    (number : exponent = -1#_ → mantissa = 0#_) :
    HoldsSign sign (UnpackedFloat.unpack format
      (UnpackedFloat.packComponents format sign exponent mantissa)) := by
  simp only [UnpackedFloat.unpack, UnpackedFloat.unpackMantissa_packComponents,
    UnpackedFloat.unpackExponent_packComponents, UnpackedFloat.unpackSign_packComponents,
    UnpackedFloat.Sign.ofBitVec_toBitVec]
  split
  · rename_i ones
    rw [if_pos (number ones)]
    rfl
  · split
    · split <;> rfl
    · rfl

/-- Packing a number keeps its sign, also where it becomes infinite or zero. -/
theorem holdsSign_pack (sign : UnpackedFloat.Sign) (number : UnpackedFloat)
    (holds : HoldsSign sign number) :
    HoldsSign sign (UnpackedFloat.unpack format (UnpackedFloat.pack format number)) := by
  cases number with
  | notANumber => exact holds.elim
  | infinity own =>
      cases holds
      exact holdsSign_packComponents _ _ _ fun _ => rfl
  | zero own =>
      cases holds
      exact holdsSign_packComponents _ _ _ fun _ => rfl
  | finite own mantissa exponent positive =>
      cases holds
      simp only [UnpackedFloat.pack]
      split
      · exact holdsSign_packComponents _ _ _ fun _ => rfl
      · rename_i inRange
        split
        · refine holdsSign_packComponents _ _ _ fun ones => ?_
          -- An exponent of ones only would be out of range.
          have value := congrArg BitVec.toNat ones
          simp at value inRange
          omega
        · exact holdsSign_packComponents _ _ _ fun ones => absurd ones (by decide)

theorem hasSign_pack (sign : UnpackedFloat.Sign) (number : UnpackedFloat)
    (holds : HoldsSign sign number) : HasSign sign (.ofModel (pack number)) :=
  holdsSign_pack sign number holds

theorem unpack_fields (vector : BitVec 64) :
    (@UnpackedFloat.unpackMantissa .binary64 vector).toNat = vector.toNat % twoTo 52 ∧
      (@UnpackedFloat.unpackExponent .binary64 vector).toNat =
        vector.toNat / twoTo 52 % 2048 ∧
      (@UnpackedFloat.unpackSign .binary64 vector).toNat = vector.toNat / twoTo 63 % 2 := by
  refine ⟨?_, ?_, ?_⟩
  · simp [UnpackedFloat.unpackMantissa]
  · simp [UnpackedFloat.unpackExponent, Nat.shiftRight_eq_div_pow]
  · simp [UnpackedFloat.unpackSign, Nat.shiftRight_eq_div_pow]

/-- The sign that bits with a one or a zero at their front stand for. -/
def signOf (negative : Bool) : UnpackedFloat.Sign := if negative then .negative else .positive

/-- Bits that do not go beyond those of infinity, with a sign in front, are the bits of a number. -/
theorem holdsSign_unpack (negative : Bool) (bits : Nat) (most : bits ≤ 2047 * twoTo 52)
    (vector : BitVec 64) (value : vector.toNat = (if negative then twoTo 63 else 0) + bits) :
    HoldsSign (signOf negative) (UnpackedFloat.unpack format vector) := by
  have unit : twoTo 52 = 4503599627370496 := rfl
  have high : twoTo 63 = 9223372036854775808 := rfl
  obtain ⟨mantissa, exponent, first⟩ := unpack_fields vector
  rw [unit] at mantissa exponent most
  rw [high] at first value
  have sign : UnpackedFloat.Sign.ofBitVec (@UnpackedFloat.unpackSign .binary64 vector) =
      signOf negative := by
    cases negative with
    | false =>
        rw [UnpackedFloat.Sign.ofBitVec, if_pos (BitVec.eq_of_toNat_eq _)]
        · rfl
        · simp at value ⊢
          omega
    | true =>
        rw [UnpackedFloat.Sign.ofBitVec, if_neg]
        · rfl
        · intro zero
          have none := congrArg BitVec.toNat zero
          simp at value none
          omega
  simp only [UnpackedFloat.unpack, sign]
  split
  · rename_i ones
    -- Nothing but infinity has ones only for an exponent and no more bits than infinity.
    have all := congrArg BitVec.toNat ones
    rw [if_pos]
    · rfl
    · apply BitVec.eq_of_toNat_eq
      simp at all ⊢
      cases negative <;> simp at value <;> omega
  · split
    · split <;> rfl
    · rfl

/-- The double nearest to a ratio has the sign of the ratio. -/
theorem hasSign_nearest (negative : Bool) (numerator denominator : Nat) :
    HasSign (signOf negative) (nearest negative numerator denominator) := by
  have unit : twoTo 52 = 4503599627370496 := rfl
  have most : (if numerator = 0 then 0 else nearestBits numerator denominator) ≤
      2047 * twoTo 52 := by
    split
    · exact Nat.zero_le _
    · exact Nat.min_le_right _ _
  apply hasSign_pack
  apply holdsSign_unpack negative _ most
  rw [UInt64.toBitVec_ofNat', BitVec.toNat_ofNat, signedBits]
  rw [unit] at most
  cases negative <;> simp <;> omega

theorem hasSign_scaleDecimal (negative : Bool) (digits : Nat) (exponent : Int) :
    HasSign (signOf negative) (Reading.scaleDecimal negative digits exponent) := by
  rw [Reading.scaleDecimal]
  split
  · exact hasSign_nearest ..
  · split
    · exact hasSign_nearest ..
    · split <;> exact hasSign_nearest ..

theorem hasSign_ofInt? (number : Int) (seconds : Float) (read : ofInt? number = some seconds) :
    ∃ sign, HasSign sign seconds := by
  rw [ofInt?] at read
  split at read
  · cases read
    exact ⟨.positive, rfl⟩
  · dsimp only at read
    split at read
    · cases read
    · cases read
      exact ⟨_, hasSign_nearest ..⟩

/-!
## Sums and products
-/

theorem holdsSign_roundWithAccuracy (sign : UnpackedFloat.Sign) (mantissa : Nat) (exponent : Int)
    (accuracy : UnpackedFloat.Accuracy) :
    HoldsSign sign (UnpackedFloat.roundWithAccuracy format sign mantissa exponent accuracy) := by
  simp only [UnpackedFloat.roundWithAccuracy]
  split <;> rfl

theorem holdsSign_normalize (mantissa : Nat) (exponent : Int) :
    HoldsSign .positive (UnpackedFloat.normalize format mantissa exponent .positive) := by
  rw [UnpackedFloat.normalize]
  split
  · rename_i less
    rw [Int.compare_eq_lt] at less
    omega
  · rfl
  · exact holdsSign_roundWithAccuracy ..

/-- The sum of two positive doubles is positive. -/
theorem hasSign_add (first second : Float) (own : HasSign .positive first)
    (other : HasSign .positive second) : HasSign .positive (first + second) := by
  apply hasSign_pack
  rw [HasSign] at own other
  generalize first.toModel.unpack = left at own ⊢
  generalize second.toModel.unpack = right at other ⊢
  cases left <;> cases right <;> simp only [HoldsSign] at own other <;> subst own other
  case finite.finite => exact holdsSign_normalize ..
  all_goals exact rfl

/-- Whether a double is a positive number that is neither zero nor infinite. -/
def IsPositiveFinite (number : Float) : Prop :=
  ∃ mantissa exponent positive,
    number.toModel.unpack = .finite .positive mantissa exponent positive

/-- A positive double times a positive number is positive. -/
theorem hasSign_mul (first second : Float) (own : HasSign .positive first)
    (other : IsPositiveFinite second) : HasSign .positive (first * second) := by
  obtain ⟨mantissa, exponent, positive, shape⟩ := other
  apply hasSign_pack
  rw [HasSign] at own
  rw [shape]
  generalize first.toModel.unpack = left at own ⊢
  cases left <;> simp only [HoldsSign] at own <;> subst own
  case finite => exact holdsSign_roundWithAccuracy ..
  all_goals exact rfl

/-!
## Comparing with zero
-/

theorem hasSign_iff (number : Float) : (∃ sign, HasSign sign number) ↔ number.isNaN = false := by
  change (∃ sign, HoldsSign sign number.toModel.unpack) ↔ number.toModel.unpack.isNaN = false
  cases number.toModel.unpack <;> simp [HoldsSign, UnpackedFloat.isNaN]

theorem le_iff (first second : Float) :
    first ≤ second ↔ first.toModel.unpack.le second.toModel.unpack = true :=
  decide_eq_true_iff

theorem lt_iff (first second : Float) :
    first < second ↔ first.toModel.unpack.lt second.toModel.unpack = true :=
  decide_eq_true_iff

/-- What does not compare as zero or less is greater than zero, or not a number. -/
theorem not_le_zero_iff (number : Float) :
    ¬number ≤ 0.0 ↔ 0.0 < number ∨ number.isNaN = true := by
  have zero : (0.0 : Float).toModel.unpack = .zero .positive := rfl
  have isNaN : number.isNaN = number.toModel.unpack.isNaN := rfl
  rw [le_iff, lt_iff, zero, isNaN]
  cases number.toModel.unpack with
  | notANumber => decide
  | infinity sign | zero sign => cases sign <;> decide
  | finite sign mantissa exponent positive =>
      cases sign <;>
        simp [UnpackedFloat.le, UnpackedFloat.lt, UnpackedFloat.compare, UnpackedFloat.isNaN]

theorem not_lt_of_isNaN (number : Float) (isNaN : number.isNaN = true) : ¬0.0 < number := by
  have zero : (0.0 : Float).toModel.unpack = .zero .positive := rfl
  change number.toModel.unpack.isNaN = true at isNaN
  rw [lt_iff, zero]
  generalize number.toModel.unpack = held at isNaN ⊢
  cases held with
  | notANumber => decide
  | infinity | zero | finite => cases isNaN

/-- A double that is greater than zero has no minus. -/
theorem unpackSign_of_pos (vector : BitVec 64)
    (positive : (UnpackedFloat.zero .positive).lt (UnpackedFloat.unpack format vector) = true) :
    vector.toNat / twoTo 63 ≠ 1 := by
  obtain ⟨_, _, sign⟩ := unpack_fields vector
  intro minus
  have negative : UnpackedFloat.Sign.ofBitVec (@UnpackedFloat.unpackSign .binary64 vector) =
      .negative := by
    rw [UnpackedFloat.Sign.ofBitVec, if_neg]
    intro none
    rw [minus, none] at sign
    cases sign
  simp only [UnpackedFloat.unpack, negative] at positive
  split at positive
  · split at positive <;> cases positive
  · split at positive
    · split at positive <;> cases positive
    · cases positive

/-- A double that is greater than zero is infinite or a positive multiple of a power of two. -/
theorem ofFloat_of_pos (number : Float) (positive : 0.0 < number) :
    ofFloat number = .infinite false ∨ ∃ significand exponent,
      0 < significand ∧ ofFloat number = .finite false significand exponent := by
  have zero : (0.0 : Float).toModel.unpack = .zero .positive := rfl
  rw [lt_iff, zero] at positive
  change (UnpackedFloat.zero .positive).lt
    (UnpackedFloat.unpack format number.toBits.toBitVec) = true at positive
  obtain ⟨mantissa, exponent, _⟩ := unpack_fields number.toBits.toBitVec
  have plain : (number.toBits.toNat / twoTo 63 == 1) = false := by
    simpa using unpackSign_of_pos _ positive
  have biased : number.toBits.toNat / twoTo 52 % twoTo 11 =
      (@UnpackedFloat.unpackExponent .binary64 number.toBits.toBitVec).toNat := exponent.symm
  have fraction : number.toBits.toNat % twoTo 52 =
      (@UnpackedFloat.unpackMantissa .binary64 number.toBits.toBitVec).toNat := mantissa.symm
  simp only [ofFloat, ofBits, plain, biased, fraction]
  simp only [UnpackedFloat.unpack] at positive
  split at positive
  · rename_i ones
    split at positive
    · rename_i none
      exact .inl (by simp [ones, none])
    · cases positive
  · rename_i inRange
    have shorter : (@UnpackedFloat.unpackExponent .binary64 number.toBits.toBitVec).toNat ≠ 2047 :=
      fun same => inRange (BitVec.eq_of_toNat_eq same)
    rw [if_neg shorter]
    right
    split at positive
    · rename_i least
      split at positive
      · cases positive
      · rename_i some
        exact ⟨_, -1074, Nat.pos_of_ne_zero fun none => some (BitVec.eq_of_toNat_eq none),
          by simp [least]⟩
    · rename_i large
      have some : (@UnpackedFloat.unpackExponent .binary64 number.toBits.toBitVec).toNat ≠ 0 :=
        fun none => large (BitVec.eq_of_toNat_eq none)
      exact ⟨_, _, Nat.add_pos_left (Nat.two_pow_pos 52) _, by rw [if_neg some]⟩

end EventForge.Binary64

/-!
## Digits

The decimal digits of all scripts are read as ASCII digits.
-/

namespace EventForge.Reading

/-- Whether a text consists of ASCII digits. -/
def IsPlainDigits (text : Text) : Prop := ∀ point ∈ text, point.isAsciiDigit = true

theorem decimalValue?_lt (point : CodePoint) (digit : Nat) (value : point.decimalValue? = some digit) :
    digit < 10 := by
  rw [CodePoint.decimalValue?] at value
  split at value
  · rename_i ascii
    have bounds := (CodePoint.isAsciiDigit_iff point).mp ascii
    cases value
    omega
  · obtain ⟨first, found, rfl⟩ := Option.map_eq_some_iff.mp value
    have near := List.find?_some found
    simp only [Bool.and_eq_true, decide_eq_true_eq] at near
    omega

/-- Digits of any script are read as ASCII digits. -/
theorem isPlainDigits_toAsciiDigits (digits : Text)
    (decimal : ∀ point ∈ digits, point.isDecimal = true) :
    IsPlainDigits (toAsciiDigits digits) := by
  intro image member
  obtain ⟨point, own, rfl⟩ := List.mem_map.mp member
  obtain ⟨digit, value⟩ := Option.isSome_iff_exists.mp (decimal point own)
  have small := decimalValue?_lt point digit value
  rw [value, CodePoint.isAsciiDigit_iff]
  simp only [CodePoint.ofNat, dif_pos (show 48 + digit < 0x110000 by omega)]
  omega

theorem digitIn?_digit (point : CodePoint) (digit : point.isAsciiDigit = true) :
    digitIn? 10 point = some (point.val - 48) := by
  have bounds := (CodePoint.isAsciiDigit_iff point).mp digit
  rw [digitIn?, CodePoint.hexValue?, if_pos digit]
  exact if_pos (by omega)

/-- A run of ASCII digits up to the end or to a point is read in full. -/
theorem digitRun_digits (digits rest : Text) (plain : IsPlainDigits digits)
    (ends : rest = [] ∨ ∃ more, rest = ("." : Text) ++ more) :
    digitRun 10 (digits ++ rest) = some (digits.map fun point => point.val - 48, rest) := by
  induction digits with
  | nil =>
      rcases ends with rfl | ⟨more, rfl⟩
      · rfl
      · rfl
  | cons point digits ih =>
      have others := ih fun other member => plain other (by simp [member])
      have own := digitIn?_digit point (plain point (by simp))
      rw [List.cons_append, digitRun, own]
      cases behind : digits ++ rest with
      | nil =>
          obtain ⟨rfl, rfl⟩ := List.append_eq_nil_iff.mp behind
          rfl
      | cons next more =>
          have noUnderscore : next ≠ CodePoint.ofChar '_' := by
            rintro rfl
            cases digits with
            | nil =>
                rcases ends with rfl | ⟨more, rfl⟩
                · cases behind
                · cases behind
            | cons other digits =>
                have digit := plain other (by simp)
                cases behind
                exact absurd digit (by decide)
          rw [behind] at others
          simp [noUnderscore, others]

theorem unsignedDecimal?_shape (whole fraction rest : Text) (plain : IsPlainDigits whole)
    (plainFraction : IsPlainDigits fraction)
    (shape : rest = [] ∧ fraction = [] ∨ rest = ("." : Text) ++ fraction)
    (inhabited : whole ≠ [] ∨ fraction ≠ []) :
    ∃ digits exponent, unsignedDecimal? false (whole ++ rest) =
      some (scaleDecimal false digits exponent) := by
  have ends : rest = [] ∨ ∃ more, rest = ("." : Text) ++ more :=
    shape.imp And.left fun shape => ⟨fraction, shape⟩
  have readFraction := digitRun_digits fraction [] plainFraction (.inl rfl)
  rw [List.append_nil] at readFraction
  rw [unsignedDecimal?, digitRun_digits whole rest plain ends]
  rcases shape with ⟨rfl, rfl⟩ | rfl
  · have present : whole ≠ [] := inhabited.resolve_right fun absent => absent rfl
    simp only [Option.bind_eq_bind, Option.bind_some, exponentPart?]
    rw [if_neg (by simpa using present)]
    exact ⟨_, _, rfl⟩
  · change ∃ digits exponent, ((digitRun 10 fraction).bind fun _ => _) = _
    simp only [readFraction, Option.bind_eq_bind, Option.bind_some, exponentPart?]
    rw [if_neg (by simpa [or_iff_not_imp_left] using inhabited)]
    exact ⟨_, _, rfl⟩

theorem isNumberBlank_of_visible (point : CodePoint) (low : 33 ≤ point.val)
    (small : point.val < 128) : isNumberBlank point = false := by
  rw [isNumberBlank, if_pos small]
  simp [CodePoint.eq_ofChar_iff, CodePoint.within]
  omega

theorem takeSign_of_noMark (text : Text)
    (noMark : ∀ point ∈ text.head?, point.val ≠ 43 ∧ point.val ≠ 45) :
    takeSign text = (false, text) := by
  cases text with
  | nil => rfl
  | cons point rest =>
      obtain ⟨notPlus, notMinus⟩ := noMark point rfl
      rw [takeSign, if_neg, if_neg]
      · rwa [CodePoint.eq_ofChar_iff]
      · rwa [CodePoint.eq_ofChar_iff]

/-- Digits and points have no blanks around them, no sign and no letters. -/
theorem float?_of_plain (text image : Text) (read : toAsciiDigits text = image)
    (plain : ∀ point ∈ image, point.isAsciiDigit = true ∨ point = CodePoint.ofChar '.') :
    float? text = unsignedDecimal? false image := by
  have bounds : ∀ point ∈ image, point.val = 46 ∨ (48 ≤ point.val ∧ point.val ≤ 57) := by
    intro point member
    rcases plain point member with digit | rfl
    · exact .inr ((CodePoint.isAsciiDigit_iff point).mp digit)
    · exact .inl rfl
  have trimmed : Text.trim isNumberBlank image = image := by
    have kept : ∀ point ∈ image, isNumberBlank point = false := by
      intro point member
      have bound := bounds point member
      exact isNumberBlank_of_visible point (by omega) (by omega)
    have trimmed := Text.trim_append isNumberBlank [] image [] (by simp) (by simp) kept
    rwa [List.nil_append, List.append_nil] at trimmed
  have small : image.toAsciiLower = image := by
    rw [Text.toAsciiLower, List.map_congr_left (g := id), List.map_id]
    intro point member
    have bound := bounds point member
    exact Fin.ext (by rw [CodePoint.toAsciiLower_val, if_neg (by omega), id])
  have unsigned : takeSign image = (false, image) := by
    apply takeSign_of_noMark
    intro point head
    have bound := bounds point (List.mem_of_mem_head? head)
    omega
  have noWord : ∀ word : Text, CodePoint.ofChar 'n' ∈ word → image ≠ word := by
    rintro word member rfl
    exact absurd (bounds _ member) (by decide)
  rw [float?, read, trimmed, unsigned]
  dsimp only
  rw [small, if_neg, if_neg (noWord "nan" (by decide))]
  simp only [Bool.or_eq_true, decide_eq_true_eq, not_or]
  exact ⟨noWord "inf" (by decide), noWord "infinity" (by decide)⟩

/-!
## Texts without digits
-/

/-- The code points of an ASCII digit, and far above them those of all other decimal digits. -/
theorem decimalValue?_of_small (point : CodePoint) (small : point.val < 128)
    (other : point.isAsciiDigit = false) : point.decimalValue? = none := by
  have large : ∀ first ∈ CodePoint.decimalZeros, first = 48 ∨ 128 ≤ first := by decide
  rw [Bool.eq_false_iff, ne_eq, CodePoint.isAsciiDigit_iff] at other
  rw [CodePoint.decimalValue?, if_neg (by simpa using other), Option.map_eq_none_iff,
    List.find?_eq_none]
  intro first member
  have bound := large first member
  simp
  omega

theorem decimalValue?_of_isNumberBlank (point : CodePoint) (blank : isNumberBlank point = true) :
    point.decimalValue? = none := by
  rw [isNumberBlank] at blank
  split at blank
  · rename_i small
    apply decimalValue?_of_small point small
    simp only [Bool.or_eq_true, decide_eq_true_eq, CodePoint.eq_ofChar_iff, CodePoint.within,
      Bool.and_eq_true] at blank
    rw [Bool.eq_false_iff, ne_eq, CodePoint.isAsciiDigit_iff]
    change point.val = 32 ∨ 9 ≤ point.val ∧ point.val ≤ 13 at blank
    omega
  · rename_i large
    have apart : ∀ range ∈ CodePoint.blankRanges, ∀ first ∈ CodePoint.decimalZeros,
        range.2 < first ∨ first + 10 ≤ range.1 := by decide
    have other : point.isAsciiDigit = false := by
      rw [Bool.eq_false_iff, ne_eq, CodePoint.isAsciiDigit_iff]
      omega
    obtain ⟨range, inside, bounds⟩ := List.any_eq_true.mp blank
    rw [CodePoint.decimalValue?, if_neg (by simp [other]), Option.map_eq_none_iff,
      List.find?_eq_none]
    intro first member
    have gap := apart range inside first member
    simp at bounds ⊢
    omega

theorem toAsciiDigits_of_noDigits (text : Text)
    (noDigits : ∀ point ∈ text, point.decimalValue? = none) : toAsciiDigits text = text := by
  rw [toAsciiDigits, List.map_congr_left (g := id), List.map_id]
  intro point member
  rw [noDigits point member, id]

/-- A text in which no digits are found has none. -/
theorem of_toAsciiDigits (text : Text)
    (noDigits : ∀ point ∈ toAsciiDigits text, point.decimalValue? = none) :
    toAsciiDigits text = text := by
  apply toAsciiDigits_of_noDigits
  intro point member
  cases value : point.decimalValue? with
  | none => rfl
  | some digit =>
      have small := decimalValue?_lt point digit value
      have image := noDigits (CodePoint.ofNat (48 + digit))
        (List.mem_map.mpr ⟨point, member, by rw [value]⟩)
      have isDigit : (CodePoint.ofNat (48 + digit)).isAsciiDigit = true := by
        rw [CodePoint.isAsciiDigit_iff]
        simp only [CodePoint.ofNat, dif_pos (show 48 + digit < 0x110000 by omega)]
        omega
      rw [CodePoint.decimalValue?, if_pos isDigit] at image
      cases image

/-!
## NaN
-/

/-- Whether a text is `nan` in any case, with an optional sign and blanks around it. -/
def SpellsNaN (text : Text) : Prop :=
  ∃ lead sign word trail : Text, text = lead ++ (sign ++ word ++ trail) ∧
    (∀ point ∈ lead, isNumberBlank point = true) ∧ (∀ point ∈ trail, isNumberBlank point = true) ∧
    (sign = [] ∨ sign = ("+" : Text) ∨ sign = ("-" : Text)) ∧ word.toAsciiLower = "nan"

theorem letters_of_nan (word : Text) (isWord : word.toAsciiLower = "nan") :
    ∀ point ∈ word, 65 ≤ point.val ∧ point.val < 128 := by
  intro point member
  have letters : ("nan" : Text).all (fun letter => decide (97 ≤ letter.val ∧ letter.val < 128)) =
      true := by decide
  have lowered : point.toAsciiLower ∈ ("nan" : Text) := isWord ▸ List.mem_map_of_mem member
  have bounds := of_decide_eq_true (List.all_eq_true.mp letters _ lowered)
  have value := CodePoint.toAsciiLower_val point
  split at value <;> omega

theorem marks_of_sign (sign : Text) (isSign : sign = [] ∨ sign = ("+" : Text) ∨ sign = ("-" : Text)) :
    ∀ point ∈ sign, point.val = 43 ∨ point.val = 45 := by
  have marks : ∀ signs ∈ [[], ("+" : Text), "-"],
      signs.all (fun point => decide (point.val = 43 ∨ point.val = 45)) = true := by decide
  intro point member
  exact of_decide_eq_true (List.all_eq_true.mp (marks sign (by simpa using isSign)) point member)

/-- No part of a spelling of NaN is a digit. -/
theorem noDigits_nan (lead sign word trail : Text)
    (leadBlank : ∀ point ∈ lead, isNumberBlank point = true)
    (trailBlank : ∀ point ∈ trail, isNumberBlank point = true)
    (isSign : sign = [] ∨ sign = ("+" : Text) ∨ sign = ("-" : Text))
    (isWord : word.toAsciiLower = "nan") :
    ∀ point ∈ lead ++ (sign ++ word ++ trail), point.decimalValue? = none := by
  have ofAscii : ∀ point : CodePoint, point.val < 128 → ¬(48 ≤ point.val ∧ point.val ≤ 57) →
      point.decimalValue? = none := fun point small other =>
    decimalValue?_of_small point small
      (by rwa [Bool.eq_false_iff, ne_eq, CodePoint.isAsciiDigit_iff])
  intro point member
  simp only [List.mem_append] at member
  rcases member with own | (own | own) | own
  · exact decimalValue?_of_isNumberBlank point (leadBlank point own)
  · have mark := marks_of_sign sign isSign point own
    exact ofAscii point (by omega) (by omega)
  · have letter := letters_of_nan word isWord point own
    exact ofAscii point (by omega) (by omega)
  · exact decimalValue?_of_isNumberBlank point (trailBlank point own)

theorem takeSign_append (sign word : Text)
    (isSign : sign = [] ∨ sign = ("+" : Text) ∨ sign = ("-" : Text))
    (letters : ∀ point ∈ word, 65 ≤ point.val) : (takeSign (sign ++ word)).2 = word := by
  rcases isSign with rfl | rfl | rfl
  · rw [List.nil_append, takeSign_of_noMark word]
    intro point head
    have bound := letters point (List.mem_of_mem_head? head)
    omega
  · rfl
  · rfl

theorem of_takeSign (text : Text) :
    ∃ sign, (sign = [] ∨ sign = ("+" : Text) ∨ sign = ("-" : Text)) ∧
      text = sign ++ (takeSign text).2 := by
  cases text with
  | nil => exact ⟨[], .inl rfl, rfl⟩
  | cons point rest =>
      rw [takeSign]
      split
      · rename_i minus
        exact ⟨"-", .inr (.inr rfl), by rw [minus]; rfl⟩
      · split
        · rename_i plus
          exact ⟨"+", .inr (.inl rfl), by rw [plus]; rfl⟩
        · exact ⟨[], .inl rfl, rfl⟩

theorem float?_of_spellsNaN (text : Text) (spelled : SpellsNaN text) :
    float? text = some (0.0 / 0.0) := by
  obtain ⟨lead, sign, word, trail, rfl, leadBlank, trailBlank, isSign, isWord⟩ := spelled
  have letters := letters_of_nan word isWord
  have kept : ∀ point ∈ sign ++ word, isNumberBlank point = false := by
    intro point member
    rcases List.mem_append.mp member with own | own
    · have mark := marks_of_sign sign isSign point own
      exact isNumberBlank_of_visible point (by omega) (by omega)
    · have letter := letters point own
      exact isNumberBlank_of_visible point (by omega) letter.2
  have trimmed := Text.trim_append isNumberBlank lead (sign ++ word) trail leadBlank trailBlank kept
  have unsigned := takeSign_append sign word isSign fun point member => (letters point member).1
  rw [float?, toAsciiDigits_of_noDigits _ (noDigits_nan _ _ _ _ leadBlank trailBlank isSign isWord),
    trimmed, unsigned, isWord]
  rfl

theorem of_unsignedDecimal? (negative : Bool) (text : Text) (number : Float)
    (read : unsignedDecimal? negative text = some number) :
    ∃ digits exponent, number = scaleDecimal negative digits exponent := by
  obtain ⟨⟨whole, rest⟩, _, read⟩ := Option.bind_eq_some_iff.mp read
  -- With a point or without one, what is left is an exponent.
  have finish : ∀ (fraction : List Nat) (rest : Text),
      (if whole.isEmpty && fraction.isEmpty then none
        else (exponentPart? rest).bind fun exponent =>
          some (scaleDecimal negative (ofDigits 10 (whole ++ fraction))
            (exponent - fraction.length))) = some number →
        ∃ digits exponent, number = scaleDecimal negative digits exponent := by
    intro fraction rest read
    split at read
    · cases read
    · obtain ⟨exponent, _, read⟩ := Option.bind_eq_some_iff.mp read
      cases read
      exact ⟨_, _, rfl⟩
  dsimp only at read
  split at read
  · split at read
    · obtain ⟨⟨fraction, rest⟩, _, read⟩ := Option.bind_eq_some_iff.mp read
      exact finish fraction rest read
    · exact finish [] _ read
  · exact finish [] [] read

/-- A text that is read as a double spells NaN, or the double has a sign. -/
theorem of_float? (text : Text) (number : Float) (read : float? text = some number) :
    SpellsNaN text ∨ ∃ sign, Binary64.HasSign sign number := by
  obtain ⟨lead, trail, parts, leadBlank, trailBlank⟩ :=
    Text.exists_trim isNumberBlank (toAsciiDigits text)
  rw [float?] at read
  split at read
  · cases read
    exact .inr ⟨_, Binary64.hasSign_nearest ..⟩
  · split at read
    · rename_i isWord
      obtain ⟨sign, isSign, shape⟩ := of_takeSign (Text.trim isNumberBlank (toAsciiDigits text))
      rw [shape] at parts
      have same := of_toAsciiDigits text (by
        rw [parts]
        exact noDigits_nan _ _ _ _ leadBlank trailBlank isSign isWord)
      rw [same] at parts isWord
      exact .inl ⟨lead, sign, _, trail, parts, leadBlank, trailBlank, isSign, isWord⟩
    · obtain ⟨digits, exponent, rfl⟩ := of_unsignedDecimal? _ _ _ read
      exact .inr ⟨_, Binary64.hasSign_scaleDecimal ..⟩

end EventForge.Reading
