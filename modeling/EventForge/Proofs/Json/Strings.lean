import EventForge.Json.Basic
import EventForge.Json.Reader
import EventForge.Proofs.Outcome
import EventForge.Proofs.Text.Ascii

/-!
# Strings from their text

A string that is written in ASCII is read back, whatever stands behind it.  A code point beyond the
basic plane is written like two surrogates, so that the string must hold none.
-/

namespace EventForge

/-!
## Four hexadecimal digits
-/

namespace Text

/-- Whether a text holds no surrogates. -/
def IsScalar (text : Text) : Prop := ∀ point ∈ text, point.isSurrogate = false

/-- The hexadecimal digit for a number below sixteen. -/
def hexDigit (number : Nat) : CodePoint := CodePoint.ofChar (Nat.digitChar number)

theorem hexValue?_hexDigit (number : Nat) (small : number < 16) :
    (hexDigit number).hexValue? = some number := by
  have every : ∀ digit : Fin 16, (hexDigit digit.val).hexValue? = some digit.val := by decide
  exact every ⟨number, small⟩

theorem hexDigit_val_lt (number : Nat) (small : number < 16) : (hexDigit number).val < 128 := by
  have every : ∀ digit : Fin 16, (hexDigit digit.val).val < 128 := by decide
  exact every ⟨number, small⟩

theorem ofHex_one (number : Nat) (small : number < 16) : ofHex 1 number = [hexDigit number] := by
  rw [ofHex, Nat.toDigits_of_lt_base small]
  rfl

/-- The last digit of a number stands behind the others. -/
theorem ofHex_succ (width number : Nat) (positive : 0 < width) :
    ofHex (width + 1) number = ofHex width (number / 16) ++ [hexDigit (number % 16)] := by
  unfold ofHex
  by_cases small : number < 16
  · have zero : CodePoint.ofChar (Nat.digitChar 0) = 0x30 := by decide
    obtain ⟨less, rfl⟩ : ∃ less, width = less + 1 := ⟨width - 1, by omega⟩
    rw [Nat.toDigits_of_lt_base small, Nat.div_eq_of_lt small, Nat.mod_eq_of_lt small,
      Nat.toDigits_of_lt_base (by decide)]
    simp [zero, hexDigit, List.replicate_succ']
  · rw [Nat.toDigits_of_base_le (by decide) (by omega)]
    simp [hexDigit]

theorem ofHex_two (number : Nat) (small : number < 256) :
    ofHex 2 number = [hexDigit (number / 16), hexDigit (number % 16)] := by
  rw [ofHex_succ 1 number (by decide), ofHex_one _ (by omega)]
  rfl

/-- Numbers of sixteen bits have four digits. -/
theorem ofHex_four (number : Nat) (small : number < 0x10000) :
    ofHex 4 number = [hexDigit (number / 16 / 16 / 16), hexDigit (number / 16 / 16 % 16),
      hexDigit (number / 16 % 16), hexDigit (number % 16)] := by
  rw [ofHex_succ 3 number (by decide), ofHex_succ 2 _ (by decide), ofHex_succ 1 _ (by decide),
    ofHex_one _ (by omega)]
  rfl

end Text

namespace JsonText

theorem fourHex?_ofHex (number : Nat) (small : number < 0x10000) (rest : Text) :
    fourHex? (Text.ofHex 4 number ++ rest) = some (number, rest) := by
  have digit (number : Nat) := Text.hexValue?_hexDigit (number % 16) (Nat.mod_lt _ (by decide))
  have first := Text.hexValue?_hexDigit (number / 16 / 16 / 16) (by omega)
  rw [Text.ofHex_four number small]
  simp only [List.cons_append, List.nil_append, fourHex?, first, digit, Option.bind_eq_bind,
    Option.bind_some, Option.some.injEq, Prod.mk.injEq, and_true]
  omega

/-!
## Code points
-/

end JsonText

namespace Json

/-- The code points that are written with a letter behind a backslash, with their letters. -/
def lettered : List (CodePoint × CodePoint) :=
  [('"', '"'), ('\\', '\\'), (0x0A, 'n'), (0x0D, 'r'), (0x09, 't'), (0x0C, 'f'), (0x08, 'b')]

/-- What holds of each code point with a letter, one after the other. -/
theorem forall_lettered (property : CodePoint × CodePoint → Prop) (quote : property ('"', '"'))
    (slash : property ('\\', '\\')) (feed : property (0x0A, 'n')) (back : property (0x0D, 'r'))
    (tab : property (0x09, 't')) (page : property (0x0C, 'f')) (step : property (0x08, 'b')) :
    ∀ entry ∈ lettered, property entry := by
  simp only [lettered, List.forall_mem_cons, List.not_mem_nil, false_implies, implies_true]
  exact ⟨quote, slash, feed, back, tab, page, step, trivial⟩

theorem lettered?_cases (point : CodePoint) :
    (∃ letter, (point, letter) ∈ lettered ∧
        lettered? point = some [CodePoint.ofChar '\\', letter]) ∨
      (lettered? point = none ∧ point ≠ CodePoint.ofChar '"' ∧ point ≠ CodePoint.ofChar '\\') := by
  by_cases quote : point = CodePoint.ofChar '"'
  · subst quote
    exact .inl ⟨'"', by decide, by decide⟩
  by_cases slash : point = CodePoint.ofChar '\\'
  · subst slash
    exact .inl ⟨'\\', by decide, by decide⟩
  by_cases feed : point.val = 0x0A
  · obtain rfl : point = 0x0A := Fin.ext feed
    exact .inl ⟨'n', by decide, by decide⟩
  by_cases back : point.val = 0x0D
  · obtain rfl : point = 0x0D := Fin.ext back
    exact .inl ⟨'r', by decide, by decide⟩
  by_cases tab : point.val = 0x09
  · obtain rfl : point = 0x09 := Fin.ext tab
    exact .inl ⟨'t', by decide, by decide⟩
  by_cases page : point.val = 0x0C
  · obtain rfl : point = 0x0C := Fin.ext page
    exact .inl ⟨'f', by decide, by decide⟩
  by_cases step : point.val = 0x08
  · obtain rfl : point = 0x08 := Fin.ext step
    exact .inl ⟨'b', by decide, by decide⟩
  refine .inr ⟨?_, quote, slash⟩
  rw [lettered?, if_neg quote, if_neg slash, if_neg feed, if_neg back, if_neg tab, if_neg page,
    if_neg step]

/-- How a code point is written in ASCII: with a letter behind a backslash, as it is, or with one or
two numbers. -/
theorem asciiPoint_cases (point : CodePoint) :
    (∃ letter, (point, letter) ∈ lettered ∧
        asciiPoint point = [CodePoint.ofChar '\\', letter]) ∨
      (asciiPoint point = [point] ∧ (0x20 ≤ point.val ∧ point.val < 128) ∧
        point ≠ CodePoint.ofChar '"' ∧ point ≠ CodePoint.ofChar '\\') ∨
      (asciiPoint point = numbered point.val ∧ point.val < 0x10000) ∨
      ∃ high low, asciiPoint point = numbered high ++ numbered low ∧
        (0xD800 ≤ high ∧ high < 0xDC00) ∧ (0xDC00 ≤ low ∧ low < 0xE000) ∧
        0x10000 + (high - 0xD800) * 0x400 + (low - 0xDC00) = point.val := by
  rcases lettered?_cases point with ⟨letter, listed, written⟩ | ⟨unlettered, quote, slash⟩
  · exact .inl ⟨letter, listed, by rw [asciiPoint, written]⟩
  · rw [asciiPoint, unlettered]
    by_cases shown : (0x20 ≤ point.val && point.val ≤ 0x7E) = true
    · have bounds : 0x20 ≤ point.val ∧ point.val ≤ 0x7E := by simpa using shown
      exact .inr (.inl ⟨if_pos shown, by omega, quote, slash⟩)
    · by_cases basic : point.val < 0x10000
      · exact .inr (.inr (.inl ⟨by simp only [if_neg shown, if_pos basic], basic⟩))
      · have bound := point.isLt
        obtain ⟨high, highAt⟩ : ∃ high, high = 0xD800 + (point.val - 0x10000) / 0x400 := ⟨_, rfl⟩
        obtain ⟨low, lowAt⟩ : ∃ low, low = 0xDC00 + (point.val - 0x10000) % 0x400 := ⟨_, rfl⟩
        refine .inr (.inr (.inr ⟨high, low, ?_, by omega, by omega, by omega⟩))
        simp only [if_neg shown, if_neg basic, highAt, lowAt]

theorem numbered_eq (number : Nat) :
    numbered number = CodePoint.ofChar '\\' :: CodePoint.ofChar 'u' :: Text.ofHex 4 number := rfl

end Json

namespace JsonText

open Outcome

theorem length_ofHex_four (number : Nat) (small : number < 0x10000) :
    (Text.ofHex 4 number).length = 4 := by
  rw [Text.ofHex_four number small]
  rfl

/-- What a letter behind a backslash stands for is read. -/
theorem stringBody_letter (opening fuel : Nat) (point letter : CodePoint) (rest : Text)
    (other : letter ≠ CodePoint.ofChar 'u') (meant : simpleEscape? letter = some point) :
    stringBody opening (fuel + 1) (CodePoint.ofChar '\\' :: letter :: rest) =
      (stringBody opening fuel rest).map fun read => (point :: read.1, read.2) := by
  have noQuote : CodePoint.ofChar '\\' ≠ CodePoint.ofChar '"' := by decide
  rw [stringBody, if_neg noQuote, if_pos rfl]
  simp only [if_neg other, meant, ok_bind]
  cases stringBody opening fuel rest <;> rfl

/-- What a number behind a backslash stands for is read. -/
theorem stringBody_number (opening fuel : Nat) (point : CodePoint) (behind rest : Text)
    (meant : unicodeEscape (CodePoint.ofChar 'u' :: behind) = .ok (point, rest)) :
    stringBody opening (fuel + 1) (CodePoint.ofChar '\\' :: CodePoint.ofChar 'u' :: behind) =
      (stringBody opening fuel rest).map fun read => (point :: read.1, read.2) := by
  have noQuote : CodePoint.ofChar '\\' ≠ CodePoint.ofChar '"' := by decide
  rw [stringBody, if_neg noQuote, if_pos rfl]
  simp only [if_true, meant, ok_bind]
  cases stringBody opening fuel rest <;> rfl

/-- The number of an escape is read if it is no first half of a pair. -/
theorem unicodeEscape_ofHex (number : Nat) (small : number < 0x10000)
    (alone : ¬(0xD800 ≤ number ∧ number < 0xDC00)) (rest : Text) (inhabited : rest ≠ []) :
    unicodeEscape (CodePoint.ofChar 'u' :: (Text.ofHex 4 number ++ rest)) =
      .ok (.ofNat number, rest) := by
  have long : ¬(CodePoint.ofChar 'u' :: (Text.ofHex 4 number ++ rest)).length ≤ 5 := by
    have positive := List.length_pos_iff.mpr inhabited
    simp only [List.length_cons, List.length_append, length_ofHex_four number small]
    omega
  rw [unicodeEscape, if_neg long, List.drop_one, List.tail_cons, fourHex?_ofHex number small]
  simp only [Bool.and_eq_true, decide_eq_true_eq, if_neg alone]

theorem lowHalf_numbered (low : Nat) (least : 0xDC00 ≤ low) (most : low < 0xE000) (rest : Text)
    (inhabited : rest ≠ []) : lowHalf (Json.numbered low ++ rest) = .ok (some low, rest) := by
  have small : low < 0x10000 := by omega
  have positive := List.length_pos_iff.mpr inhabited
  have long : 6 < (CodePoint.ofChar '\\' :: CodePoint.ofChar 'u' ::
      (Text.ofHex 4 low ++ rest)).length := by
    simp only [List.length_cons, List.length_append, length_ofHex_four low small]
    omega
  have within : (decide (0xDC00 ≤ low) && decide (low < 0xE000)) = true := by
    simp only [least, most, decide_true, Bool.and_self]
  rw [Json.numbered_eq, List.cons_append, List.cons_append, lowHalf]
  simp only [long, decide_true, Bool.and_true, if_true, fourHex?_ofHex low small rest, within]

/-- The numbers of two escapes that are the halves of a pair are read as one code point. -/
theorem unicodeEscape_pair (high low : Nat) (highLeast : 0xD800 ≤ high) (highMost : high < 0xDC00)
    (least : 0xDC00 ≤ low) (most : low < 0xE000) (rest : Text) (inhabited : rest ≠ []) :
    unicodeEscape
        (CodePoint.ofChar 'u' :: (Text.ofHex 4 high ++ (Json.numbered low ++ rest))) =
      .ok (.ofNat (0x10000 + (high - 0xD800) * 0x400 + (low - 0xDC00)), rest) := by
  have small : high < 0x10000 := by omega
  have positive := List.length_pos_iff.mpr inhabited
  have long : ¬(CodePoint.ofChar 'u' ::
      (Text.ofHex 4 high ++ (Json.numbered low ++ rest))).length ≤ 5 := by
    simp only [List.length_cons, List.length_append, length_ofHex_four high small]
    omega
  have within : (decide (0xD800 ≤ high) && decide (high < 0xDC00)) = true := by
    simp only [highLeast, highMost, decide_true, Bool.and_self]
  rw [unicodeEscape, if_neg long, List.drop_one, List.tail_cons, fourHex?_ofHex high small]
  simp only [within, if_true, lowHalf_numbered low least most rest inhabited]

/-- A code point in ASCII is read back. -/
theorem stringBody_asciiPoint (opening fuel : Nat) (point : CodePoint)
    (scalar : point.isSurrogate = false) (rest : Text) (inhabited : rest ≠ []) :
    stringBody opening (fuel + 1) (Json.asciiPoint point ++ rest) =
      (stringBody opening fuel rest).map fun read => (point :: read.1, read.2) := by
  have itself : CodePoint.ofNat point.val = point := dif_pos point.isLt
  rcases Json.asciiPoint_cases point with ⟨letter, listed, written⟩ |
    ⟨written, ⟨least, _⟩, quote, slash⟩ |
    ⟨written, basic⟩ | ⟨high, low, written, ⟨highLeast, highMost⟩, ⟨least, most⟩, whole⟩
  · have meant : letter ≠ CodePoint.ofChar 'u' ∧ simpleEscape? letter = some point := by
      have every : ∀ entry ∈ Json.lettered,
          entry.2 ≠ CodePoint.ofChar 'u' ∧ simpleEscape? entry.2 = some entry.1 :=
        Json.forall_lettered _ (by decide) (by decide) (by decide) (by decide) (by decide)
          (by decide) (by decide)
      exact every _ listed
    rw [written]
    exact stringBody_letter opening fuel point letter rest meant.1 meant.2
  · have noControl : ¬point.val < 0x20 := by omega
    simp only [written, List.cons_append, List.nil_append, stringBody, if_neg quote, if_neg slash,
      if_neg noControl]
    cases stringBody opening fuel rest <;> rfl
  · have alone : ¬(0xD800 ≤ point.val ∧ point.val < 0xDC00) := by
      simp only [CodePoint.isSurrogate, Bool.and_eq_false_iff, decide_eq_false_iff_not] at scalar
      omega
    have read := unicodeEscape_ofHex point.val basic alone rest inhabited
    rw [itself] at read
    rw [written, Json.numbered_eq]
    exact stringBody_number opening fuel point _ rest read
  · have read := unicodeEscape_pair high low highLeast highMost least most rest inhabited
    rw [whole, itself] at read
    rw [written, Json.numbered_eq, List.append_assoc]
    exact stringBody_number opening fuel point _ rest read

/-- A string in ASCII is read back, by induction on its code points. -/
theorem stringBody_flatMap (opening fuel : Nat) (text : Text) (scalar : text.IsScalar) (rest : Text)
    (enough : text.length < fuel) :
    stringBody opening fuel (text.flatMap Json.asciiPoint ++ CodePoint.ofChar '"' :: rest) =
      .ok (text, rest) := by
  induction text generalizing fuel with
  | nil =>
      obtain ⟨fuel, rfl⟩ := Nat.exists_eq_succ_of_ne_zero (Nat.ne_of_gt enough)
      rfl
  | cons point text ih =>
      obtain ⟨fuel, rfl⟩ := Nat.exists_eq_succ_of_ne_zero (Nat.ne_of_gt (Nat.zero_lt_of_lt enough))
      have later := ih fuel (fun other member => scalar other (by simp [member])) (by simpa using enough)
      rw [List.flatMap_cons, List.append_assoc, stringBody_asciiPoint opening fuel point
        (scalar point (by simp)) _ (by simp), later]
      rfl

end JsonText

/-- A string is determined by its text in ASCII, whatever stands behind it. -/
theorem Json.asciiString_append_injective (first second rest others : Text)
    (firstScalar : first.IsScalar) (secondScalar : second.IsScalar)
    (same : asciiString first ++ rest = asciiString second ++ others) :
    first = second ∧ rest = others := by
  have opened (text rest : Text) : asciiString text ++ rest =
      CodePoint.ofChar '"' :: (text.flatMap asciiPoint ++ CodePoint.ofChar '"' :: rest) := by
    simp [asciiString]
    rfl
  rw [opened, opened, List.cons.injEq] at same
  let fuel := first.length + second.length + 1
  have read := JsonText.stringBody_flatMap 0 fuel first firstScalar rest (by omega)
  rw [same.2, JsonText.stringBody_flatMap 0 fuel second secondScalar others (by omega)] at read
  obtain ⟨rfl, rfl⟩ := Prod.mk.inj (Except.ok.inj read)
  exact ⟨rfl, rfl⟩

end EventForge
