import EventForge.Text.Case

/-!
# ASCII texts

ASCII texts are mapped to small letters point by point, and numerals are ASCII.
-/

namespace EventForge

/-!
## ASCII text

Identifiers are ASCII.  On ASCII text small letters and folded letters are those of the ASCII table,
code point by code point, and neither the neighbours of a letter nor the case tables matter.
-/

namespace CodePoint

theorem eq_ofChar_iff (point : CodePoint) (char : Char) :
    point = ofChar char ↔ point.val = char.toNat := Fin.ext_iff

@[simp] theorem isAsciiUpper_iff (point : CodePoint) :
    point.isAsciiUpper = true ↔ 65 ≤ point.val ∧ point.val ≤ 90 := by
  simp [isAsciiUpper, within]

@[simp] theorem isAsciiLower_iff (point : CodePoint) :
    point.isAsciiLower = true ↔ 97 ≤ point.val ∧ point.val ≤ 122 := by
  simp [isAsciiLower, within]

@[simp] theorem isAsciiDigit_iff (point : CodePoint) :
    point.isAsciiDigit = true ↔ 48 ≤ point.val ∧ point.val ≤ 57 := by
  simp [isAsciiDigit, within]

@[simp] theorem isAsciiLetter_iff (point : CodePoint) :
    point.isAsciiLetter = true ↔
      (65 ≤ point.val ∧ point.val ≤ 90) ∨ (97 ≤ point.val ∧ point.val ≤ 122) := by
  simp [isAsciiLetter]

@[simp] theorem isAsciiAlphanumeric_iff (point : CodePoint) :
    point.isAsciiAlphanumeric = true ↔
      ((65 ≤ point.val ∧ point.val ≤ 90) ∨ (97 ≤ point.val ∧ point.val ≤ 122)) ∨
        (48 ≤ point.val ∧ point.val ≤ 57) := by
  simp [isAsciiAlphanumeric]

theorem toAsciiLower_val (point : CodePoint) :
    point.toAsciiLower.val =
      if 65 ≤ point.val ∧ point.val ≤ 90 then point.val + 32 else point.val := by
  unfold toAsciiLower
  by_cases upper : 65 ≤ point.val ∧ point.val ≤ 90
  · rw [if_pos (by simpa using upper), if_pos upper, ofNat, dif_pos (by omega)]
  · rw [if_neg (by simpa using upper), if_neg upper]

theorem toUpper_ascii (point : CodePoint) (ascii : point.val < 128) :
    ∃ upper : CodePoint, point.toUpper = [upper] ∧
      upper.val = if 97 ≤ point.val ∧ point.val ≤ 122 then point.val - 32 else point.val := by
  have written : point.toUpper =
      [if point.isAsciiLower then ofNat (point.val - 32) else point] := by
    rw [toUpper, if_pos ascii]
  refine ⟨_, written, ?_⟩
  by_cases lower : 97 ≤ point.val ∧ point.val ≤ 122
  · rw [if_pos (by simpa using lower), if_pos lower, ofNat, dif_pos (by omega)]
  · rw [if_neg (by simpa using lower), if_neg lower]

theorem toAsciiLower_toAsciiLower (point : CodePoint) :
    point.toAsciiLower.toAsciiLower = point.toAsciiLower := by
  apply Fin.ext
  rw [toAsciiLower_val point.toAsciiLower]
  have image := toAsciiLower_val point
  split at image <;> split <;> omega

theorem ofChar_inj (first second : Char) : ofChar first = ofChar second ↔ first = second := by
  constructor
  · intro same
    have values : (ofChar first).val = (ofChar second).val := by rw [same]
    exact Char.ext (UInt32.toNat_inj.mp values)
  · rintro rfl
    rfl

end CodePoint

namespace Text

theorem ofString_inj (first second : String) : ofString first = ofString second ↔ first = second := by
  constructor
  · intro same
    refine String.toList_injective ?_
    exact (List.map_inj_right fun left right equal =>
      (CodePoint.ofChar_inj left right).mp equal).mp same
  · rintro rfl
    rfl

/-- The text of a written string, as the list of its code points. -/
theorem ofString_ofList (chars : List Char) :
    ofString (String.ofList chars) = chars.map CodePoint.ofChar := by
  rw [ofString, String.toList_ofList]

/-- Whether every code point of a text is below 128. -/
def IsAscii (text : Text) : Prop := ∀ point ∈ text, point.val < 128

theorem IsAscii.append {first second : Text} (firstAscii : first.IsAscii)
    (secondAscii : second.IsAscii) : (first ++ second).IsAscii := by
  intro point member
  rcases List.mem_append.mp member with member | member
  · exact firstAscii point member
  · exact secondAscii point member

private theorem lowerAfter_ascii (before text : Text) (ascii : text.IsAscii) :
    lowerAfter before text = text.toAsciiLower := by
  induction text generalizing before with
  | nil => rfl
  | cons point rest ih =>
      have small : point.val < 128 := ascii point (by simp)
      have restAscii : IsAscii rest := fun other member => ascii other (by simp [member])
      rw [lowerAfter, if_neg (by omega), CodePoint.toLower, if_pos small, ih _ restAscii]
      rfl

theorem lower_ascii (text : Text) (ascii : text.IsAscii) : text.lower = text.toAsciiLower :=
  lowerAfter_ascii [] text ascii

theorem fold_ascii (text : Text) (ascii : text.IsAscii) : text.fold = text.toAsciiLower := by
  induction text with
  | nil => rfl
  | cons point rest ih =>
      have small : point.val < 128 := ascii point (by simp)
      have foldRest := ih fun other member => ascii other (by simp [member])
      simp only [fold, List.flatMap_cons] at foldRest ⊢
      rw [foldRest, CodePoint.toFolded, if_pos small]
      rfl

@[simp] theorem toAsciiLower_nil : toAsciiLower [] = [] := rfl

@[simp] theorem toAsciiLower_append (first second : Text) :
    toAsciiLower (first ++ second) = toAsciiLower first ++ toAsciiLower second :=
  List.map_append

@[simp] theorem toAsciiLower_length (text : Text) : (toAsciiLower text).length = text.length :=
  List.length_map _

@[simp] theorem toAsciiLower_toAsciiLower (text : Text) :
    toAsciiLower (toAsciiLower text) = toAsciiLower text := by
  simp only [toAsciiLower, List.map_map]
  exact List.map_congr_left fun point _ => CodePoint.toAsciiLower_toAsciiLower point

end Text

end EventForge

/-!
## Texts of strings

A closed text is computed by reading its string as UTF-8.  The bytes of an ASCII string give the same
text, and are computed with far less work.
-/

namespace EventForge.Text

/-- Whether a string consists of bytes that stand for themselves. -/
def hasAsciiBytes (string : String) : Bool :=
  string.toByteArray.data.toList.all fun byte => byte.toNat < 128

/-- The text whose code points are the bytes of a string. -/
def ofBytes (string : String) : Text :=
  string.toByteArray.data.toList.map fun byte => CodePoint.ofNat byte.toNat

theorem utf8EncodeChar_ascii (char : Char)
    (ascii : ∀ byte ∈ String.utf8EncodeChar char, byte.toNat < 128) :
    (String.utf8EncodeChar char).map (fun byte => CodePoint.ofNat byte.toNat) =
      [CodePoint.ofChar char] := by
  have small : char.val.toNat ≤ 127 := by
    refine Nat.le_of_not_lt fun beyond => ?_
    -- The first byte of a longer encoding is no ASCII byte.
    have leads : ∃ byte ∈ String.utf8EncodeChar char, 128 ≤ byte.toNat := by
      simp only [String.utf8EncodeChar]
      rw [if_neg (Nat.not_le.mpr beyond)]
      split
      · exact ⟨_, .head _, by rw [UInt8.toNat_ofNat']; omega⟩
      split
      · exact ⟨_, .head _, by rw [UInt8.toNat_ofNat']; omega⟩
      · exact ⟨_, .head _, by rw [UInt8.toNat_ofNat']; omega⟩
    obtain ⟨byte, member, high⟩ := leads
    exact absurd (ascii byte member) (Nat.not_lt.mpr high)
  have alone : String.utf8EncodeChar char = [UInt8.ofNat char.val.toNat] := by
    simp only [String.utf8EncodeChar]
    exact if_pos small
  rw [alone, List.map_singleton]
  congr 1
  apply Fin.ext
  rw [UInt8.toNat_ofNat', Nat.mod_eq_of_lt (by omega), CodePoint.ofNat, dif_pos (by omega)]
  rfl

theorem ofString_eq_ofBytes (string : String) (ascii : hasAsciiBytes string = true) :
    ofString string = ofBytes string := by
  obtain ⟨chars, rfl⟩ : ∃ chars, string = String.ofList chars := ⟨_, String.ofList_toList.symm⟩
  simp only [hasAsciiBytes, List.all_eq_true, decide_eq_true_eq, String.toByteArray_ofList,
    List.utf8Encode, List.data_toByteArray] at ascii
  simp only [ofString_ofList, ofBytes, String.toByteArray_ofList, List.utf8Encode,
    List.data_toByteArray]
  induction chars with
  | nil => rfl
  | cons char chars ih =>
      rw [List.flatMap_cons] at ascii ⊢
      rw [List.map_append, List.map_cons,
        utf8EncodeChar_ascii char fun byte member => ascii byte (List.mem_append_left _ member),
        ih fun byte member => ascii byte (List.mem_append_right _ member)]
      rfl

/-- What holds of the bytes of some ASCII strings holds of their texts. -/
theorem forall_mem_ofBytes (property : Text → Bool) (strings : List String)
    (every : (strings.all fun string => hasAsciiBytes string && property (ofBytes string)) = true) :
    ∀ text ∈ strings.map ofString, property text = true := by
  intro text member
  obtain ⟨string, listed, rfl⟩ := List.mem_map.mp member
  have holds := List.all_eq_true.mp every string listed
  rw [Bool.and_eq_true] at holds
  rw [ofString_eq_ofBytes string holds.1]
  exact holds.2

end EventForge.Text

/-!
## Numerals

The text of a natural number is a run of ASCII digits, never empty, whose value is the number.
-/

namespace EventForge.Text

theorem ofNat_eq (number : Nat) :
    ofNat number = (Nat.toDigits 10 number).map CodePoint.ofChar := by
  rw [ofNat, ofString, Nat.toList_repr]

theorem ofNat_ne_nil (number : Nat) : ofNat number ≠ [] := by
  simp [ofNat_eq]

theorem isAsciiDigit_of_mem_ofNat (number : Nat) :
    ∀ point ∈ ofNat number, point.isAsciiDigit = true := by
  intro point member
  rw [ofNat_eq] at member
  obtain ⟨char, charMember, rfl⟩ := List.mem_map.mp member
  have digit := Nat.isDigit_of_mem_toDigits (by omega) (by omega) charMember
  simp only [Char.isDigit, Bool.and_eq_true, decide_eq_true_eq, UInt32.le_iff_toNat_le] at digit
  exact (CodePoint.isAsciiDigit_iff _).mpr digit

private theorem digitsValue_map (chars : List Char) (number : Nat) :
    (chars.map CodePoint.ofChar).foldl (fun number digit => number * 10 + (digit.val - 48)) number =
      Nat.ofDigitChars 10 chars number := by
  induction chars generalizing number with
  | nil => rfl
  | cons char chars ih =>
      simp only [List.map_cons, List.foldl_cons, ih]
      rw [Nat.ofDigitChars_cons, Nat.mul_comm]
      rfl

/-- Reading the digits of a number gives the number back. -/
theorem digitsValue_ofNat (number : Nat) : digitsValue (ofNat number) = number := by
  rw [digitsValue, ofNat_eq, digitsValue_map, Nat.ofDigitChars_ten_toDigits]

theorem ofNat_injective (first second : Nat) (same : ofNat first = ofNat second) :
    first = second := by
  rw [← digitsValue_ofNat first, same, digitsValue_ofNat]

theorem not_mem_ofNat (number : Nat) (point : CodePoint) (other : point.isAsciiDigit = false) :
    point ∉ ofNat number := by
  intro member
  simp [isAsciiDigit_of_mem_ofNat number point member] at other

end EventForge.Text
