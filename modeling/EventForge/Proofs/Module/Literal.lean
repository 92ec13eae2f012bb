import EventForge.Module.Literal
import EventForge.Proofs.Json.Strings
import EventForge.Proofs.Script.OutlineRun
import EventForge.Proofs.Text.Ascii
import EventForge.Proofs.Text.Pieces

/-!
# Reading string literals back

A text that is written as a string literal reads back as itself, whatever stands behind the literal.
The literal stands on one line, and a script takes it as one string whose value is the text.
-/

namespace EventForge

namespace Literal

theorem rest?_escape (fuel : Nat) (point : CodePoint) (behind rest : Text)
    (escaped : escape (behind ++ rest) = .ok ([point], rest)) :
    rest? (fuel + 1) (CodePoint.ofChar '\\' :: (behind ++ rest)) =
      (rest? fuel rest).map fun found => (point :: found.1, found.2) := by
  have noQuote : CodePoint.ofChar '\\' ≠ CodePoint.ofChar '"' := by decide
  have noEnd : ((CodePoint.ofChar '\\').val = 0x0A || (CodePoint.ofChar '\\').val = 0x0D) = false := by
    decide
  rw [rest?, if_neg noQuote, noEnd, if_neg Bool.false_ne_true, if_pos rfl, escaped]
  simp only [Except.toOption, Option.bind_eq_bind, Option.bind_some]
  cases rest? fuel rest <;> rfl

/-- The escapes by number, for the code points that have no letter. -/
theorem hexNumber?_ofHex : ∀ number : Fin 32,
    hexNumber? 4 (Text.ofHex 4 number.val) = some number.val ∧
      (Text.ofHex 4 number.val).length = 4 := by
  decide

theorem escape_numbered (number : Nat) (small : number < 32) (bound : number < 0x110000)
    (rest : Text) :
    escape ((("u" : Text) ++ Text.ofHex 4 number) ++ rest) =
      .ok ([(⟨number, bound⟩ : CodePoint)], rest) := by
  obtain ⟨read, size⟩ := hexNumber?_ofHex ⟨number, small⟩
  have taken : hexNumber? 4 (Text.ofHex 4 number ++ rest) = some number := by
    have whole : (Text.ofHex 4 number).take 4 = Text.ofHex 4 number :=
      List.take_of_length_le (Nat.le_of_eq size)
    rw [← read, hexNumber?, hexNumber?, List.take_left' size, whole]
  have dropped : (Text.ofHex 4 number ++ rest).drop 4 = rest := List.drop_left' size
  have unlettered : lettered? (CodePoint.ofChar 'u') = none := by decide
  have numbered : numbered? (CodePoint.ofChar 'u') = some 4 := by decide
  change escape (CodePoint.ofChar 'u' :: (Text.ofHex 4 number ++ rest)) = _
  rw [escape, unlettered, numbered]
  simp only [taken, dropped]
  rw [dif_pos bound]

/-- How a code point is written in a literal: as it is, or with a letter or a number behind a
backslash. -/
theorem plainPoint_cases (point : CodePoint) :
    (Json.plainPoint point = [point] ∧ 0x20 ≤ point.val ∧ point ≠ CodePoint.ofChar '"' ∧
        point ≠ CodePoint.ofChar '\\') ∨
      (∃ letter : CodePoint, Json.plainPoint point = [CodePoint.ofChar '\\', letter] ∧
        lettered? letter = some point ∧ 0x20 ≤ letter.val ∧ letter.val < 0x7F) ∨
      (Json.plainPoint point = Json.numbered point.val ∧ point.val < 32) := by
  rcases Json.lettered?_cases point with ⟨letter, listed, written⟩ | ⟨unlettered, quote, slash⟩
  · have meant : ∀ entry ∈ Json.lettered, lettered? entry.2 = some entry.1 ∧
        0x20 ≤ entry.2.val ∧ entry.2.val < 0x7F :=
      Json.forall_lettered _ (by decide) (by decide) (by decide) (by decide) (by decide)
        (by decide) (by decide)
    exact Or.inr (Or.inl ⟨letter, by rw [Json.plainPoint, written], meant _ listed⟩)
  rw [Json.plainPoint, unlettered]
  by_cases high : 0x20 ≤ point.val
  · exact Or.inl ⟨if_pos high, high, quote, slash⟩
  · exact Or.inr (Or.inr ⟨if_neg high, by omega⟩)

theorem rest?_plainPoint (fuel : Nat) (point : CodePoint) (rest : Text) :
    rest? (fuel + 1) (Json.plainPoint point ++ rest) =
      (rest? fuel rest).map fun found => (point :: found.1, found.2) := by
  rcases plainPoint_cases point with ⟨written, high, quote, slash⟩ | ⟨letter, written, meant, _⟩ |
    ⟨written, low⟩
  · have noEnd : (point.val = 0x0A || point.val = 0x0D) = false := by
      simp only [Bool.or_eq_false_iff, decide_eq_false_iff_not]
      omega
    rw [written, List.cons_append, List.nil_append, rest?, if_neg quote, noEnd,
      if_neg Bool.false_ne_true, if_neg slash]
    cases rest? fuel rest <;> rfl
  · rw [written]
    exact rest?_escape fuel point [letter] rest (by simp [escape, meant])
  · rw [written]
    exact rest?_escape fuel point _ rest (escape_numbered point.val low point.isLt rest)

theorem rest?_flatMap (fuel : Nat) (text rest : Text) (enough : text.length < fuel) :
    rest? fuel (text.flatMap Json.plainPoint ++ CodePoint.ofChar '"' :: rest) =
      some (text, rest) := by
  induction text generalizing fuel with
  | nil =>
      obtain ⟨fuel, rfl⟩ := Nat.exists_eq_succ_of_ne_zero (Nat.ne_of_gt enough)
      rfl
  | cons point text ih =>
      obtain ⟨fuel, rfl⟩ := Nat.exists_eq_succ_of_ne_zero (Nat.ne_of_gt (Nat.zero_lt_of_lt enough))
      have read := ih fuel (by simpa using enough)
      rw [List.flatMap_cons, List.append_assoc, rest?_plainPoint, read]
      rfl

theorem plainPoint_ne_nil (point : CodePoint) : Json.plainPoint point ≠ [] := by
  rcases plainPoint_cases point with ⟨written, _⟩ | ⟨letter, written, _⟩ | ⟨written, _⟩
  · simp [written]
  · simp [written]
  · rw [written]
    exact List.cons_ne_nil _ _

theorem length_le_flatMap (text : Text) :
    text.length ≤ (text.flatMap Json.plainPoint).length := by
  induction text with
  | nil => simp
  | cons point text ih =>
      have positive := List.length_pos_iff.mpr (plainPoint_ne_nil point)
      simp only [List.flatMap_cons, List.length_append, List.length_cons]
      omega

theorem ofText_eq (text : Text) :
    ofText text =
      CodePoint.ofChar '"' :: (text.flatMap Json.plainPoint ++ [CodePoint.ofChar '"']) := rfl

/-- Reading the literal of a text gives the text, and leaves what stands behind the literal. -/
theorem read?_ofText (text rest : Text) : read? (ofText text ++ rest) = some (text, rest) := by
  have long := length_le_flatMap text
  have shape : ofText text ++ rest =
      CodePoint.ofChar '"' :: (text.flatMap Json.plainPoint ++ CodePoint.ofChar '"' :: rest) := by
    simp [ofText_eq]
  rw [shape, read?, if_pos rfl]
  exact rest?_flatMap _ text rest (by simp only [List.length_append, List.length_cons]; omega)

theorem value?_ofText (text : Text) : value? (ofText text) = some text := by
  have read := read?_ofText text []
  rw [List.append_nil] at read
  rw [value?, read]

theorem mem_numbered : ∀ number : Fin 32,
    (Json.numbered number.val).all (fun point => decide (0x20 ≤ point.val ∧ point.val < 0x7F)) =
      true := by
  decide

/-- A literal holds printable ASCII, and of its text no control character. -/
theorem mem_ofText (text : Text) (point : CodePoint) (member : point ∈ ofText text) :
    (0x20 ≤ point.val ∧ point.val < 0x7F) ∨ (point ∈ text ∧ 0x20 ≤ point.val) := by
  have quote : 0x20 ≤ (CodePoint.ofChar '"').val ∧ (CodePoint.ofChar '"').val < 0x7F := by decide
  have slash : 0x20 ≤ (CodePoint.ofChar '\\').val ∧ (CodePoint.ofChar '\\').val < 0x7F := by decide
  have body : point = CodePoint.ofChar '"' ∨ point ∈ text.flatMap Json.plainPoint := by
    simpa [ofText_eq, or_comm] using member
  rcases body with rfl | body
  · exact Or.inl quote
  · obtain ⟨source, own, written⟩ := List.mem_flatMap.mp body
    rcases plainPoint_cases source with ⟨shape, high, _⟩ | ⟨letter, shape, _, high⟩ | ⟨shape, low⟩
    · rw [shape, List.mem_singleton] at written
      rw [written]
      exact Or.inr ⟨own, high⟩
    · rw [shape] at written
      rcases List.mem_cons.mp written with rfl | written
      · exact Or.inl slash
      · rw [List.mem_singleton.mp written]
        exact Or.inl high
    · rw [shape] at written
      have ascii := List.all_eq_true.mp (mem_numbered ⟨source.val, low⟩) point written
      exact Or.inl (by simpa using ascii)

/-- A code point beyond ASCII stands in the literal of a text that holds it. -/
theorem mem_ofText_of_high (text : Text) (point : CodePoint) (member : point ∈ text)
    (high : 0x80 ≤ point.val) : point ∈ ofText text := by
  have small : ∀ char ∈ ['"', '\\'], point ≠ CodePoint.ofChar char := by
    have low : (['"', '\\'].all fun char => (CodePoint.ofChar char).val < 0x80) = true := by
      decide
    rintro char listed rfl
    have bound := of_decide_eq_true (List.all_eq_true.mp low char listed)
    omega
  have unlettered : Json.lettered? point = none := by
    rw [Json.lettered?, if_neg (small '"' (by simp)), if_neg (small '\\' (by simp)),
      if_neg (by omega), if_neg (by omega), if_neg (by omega), if_neg (by omega),
      if_neg (by omega)]
  have written : Json.plainPoint point = [point] := by
    rw [Json.plainPoint, unlettered]
    exact if_pos (by omega)
  rw [ofText_eq]
  apply List.mem_cons_of_mem
  apply List.mem_append_left
  exact List.mem_flatMap.mpr ⟨point, member, by rw [written]; simp⟩

/-!
## Literals in scripts

A script cuts its text into tokens first, and reads what stands between the quotes of a string only
then.
-/

open ScriptToken

theorem isAsciiAlphanumeric_ofHex : ∀ number : Fin 32,
    (Text.ofHex 4 number.val).all CodePoint.isAsciiAlphanumeric = true := by
  decide

theorem isBody_plainPoint (point : CodePoint) : IsBody false (Json.plainPoint point) := by
  rcases plainPoint_cases point with ⟨written, high, quote, slash⟩ | ⟨letter, written, -⟩ |
    ⟨written, low⟩
  · rw [written]
    exact isBody_point false point slash quote (.inr (by omega))
  · rw [written]
    exact isBody_escape false letter
  · rw [written]
    have digits : IsBody false (Text.ofHex 4 point.val) := by
      apply isBody_of_points
      intro digit member
      have plain := List.all_eq_true.mp (isAsciiAlphanumeric_ofHex ⟨point.val, low⟩) digit member
      refine ⟨?_, ?_, .inr ?_⟩
      · rintro rfl
        exact absurd plain (by decide)
      · rintro rfl
        exact absurd plain (by decide)
      · intro feed
        obtain rfl : digit = 0x0A := Fin.ext feed
        exact absurd plain (by decide)
    exact isBody_append false _ _ (isBody_escape false 'u') digits

/-- What stands between the quotes is read on its own, point by point. -/
theorem isBody_flatMap (text : Text) : IsBody false (text.flatMap Json.plainPoint) := by
  induction text with
  | nil => exact isBody_nil false
  | cons point text ih =>
      rw [List.flatMap_cons]
      exact isBody_append false _ _ (isBody_plainPoint point) ih

/-- Every code point between the quotes is printable ASCII, or one of the text that is no control
character. -/
theorem mem_flatMap (text : Text) (point : CodePoint)
    (member : point ∈ text.flatMap Json.plainPoint) :
    (0x20 ≤ point.val ∧ point.val < 0x7F) ∨ (point ∈ text ∧ 0x20 ≤ point.val) := by
  apply mem_ofText
  rw [ofText_eq]
  exact List.mem_cons_of_mem _ (List.mem_append_left _ member)

/-- Behind the opening quote no two others follow, so that the string is a short one. -/
theorem startsWith_flatMap (text behind : Text)
    (apart : text = [] → behind.head? ≠ some (CodePoint.ofChar '"')) :
    Text.startsWith (text.flatMap Json.plainPoint ++ CodePoint.ofChar '"' :: behind)
      [CodePoint.ofChar '"', CodePoint.ofChar '"'] = false := by
  cases text with
  | nil =>
      cases behind with
      | nil => rfl
      | cons next behind =>
          have other : ¬CodePoint.ofChar '"' = next := by
            rintro rfl
            exact apart rfl rfl
          simp [Text.startsWith, List.isPrefixOf, other]
  | cons point text =>
      have opens : ∃ first rest, Json.plainPoint point = first :: rest ∧
          ¬CodePoint.ofChar '"' = first := by
        rcases plainPoint_cases point with ⟨written, _, quote, _⟩ | ⟨letter, written, _⟩ |
          ⟨written, _⟩
        · exact ⟨point, [], written, Ne.symm quote⟩
        · exact ⟨_, _, written, by decide⟩
        · exact ⟨CodePoint.ofChar '\\', _, written, by decide⟩
      obtain ⟨first, rest, written, other⟩ := opens
      simp [List.flatMap_cons, written, Text.startsWith, List.isPrefixOf, other]

/-- A script cuts the literal off as one string.  Only in front of another quote the empty literal
would open a long string. -/
theorem cut_literal (place : ScriptToken.Place) (text behind : Text)
    (apart : text = [] → behind.head? ≠ some (CodePoint.ofChar '"')) :
    cut place '"' (text.flatMap Json.plainPoint ++ CodePoint.ofChar '"' :: behind) =
      .ok (mark place (.string [] (text.flatMap Json.plainPoint)), place, behind) := by
  have short := startsWith_flatMap text behind apart
  have noFeeds : (text.flatMap Json.plainPoint).countP (fun point => point.val = 0x0A) = 0 := by
    rw [List.countP_eq_zero]
    intro point member
    have high := mem_flatMap text point member
    rw [decide_eq_true_eq]
    omega
  have cuts := cut_of_stringBody? place
    (text.flatMap Json.plainPoint ++ CodePoint.ofChar '"' :: behind) _
    (text.flatMap Json.plainPoint) behind rfl (by
      rw [short]
      exact stringBody?_short _ behind (isBody_flatMap text))
  rw [noFeeds] at cuts
  exact cuts

section Values

variable {fuel : Nat} {rest value : Text}
  (others : ∀ position, ScriptString.unescape fuel position rest = .ok value)

include others

theorem unescape_escape (position : Nat) (point : CodePoint) (behind : Text)
    (unnamed : (behind ++ rest).head? ≠ some (CodePoint.ofChar 'N'))
    (escaped : escape (behind ++ rest) = .ok ([point], rest)) :
    ScriptString.unescape (fuel + 1) position (CodePoint.ofChar '\\' :: (behind ++ rest)) =
      .ok (point :: value) := by
  rw [ScriptString.unescape, if_neg (by simp), if_neg unnamed, escaped]
  simp only [others]
  rfl

/-- A code point of the text is read where it is written, whatever its position. -/
theorem unescape_plainPoint (position : Nat) (point : CodePoint) :
    ScriptString.unescape (fuel + 1) position (Json.plainPoint point ++ rest) =
      .ok (point :: value) := by
  rcases plainPoint_cases point with ⟨written, _, _, slash⟩ | ⟨letter, written, meant, _⟩ |
    ⟨written, low⟩
  · rw [written, List.singleton_append, ScriptString.unescape, if_pos slash, others]
    rfl
  · rw [written]
    have unnamed : letter ≠ CodePoint.ofChar 'N' := by
      rintro rfl
      exact absurd meant (by rw [show lettered? (CodePoint.ofChar 'N') = none by decide]; simp)
    exact unescape_escape others position point [letter] (by simpa using unnamed)
      (by simp [escape, meant])
  · rw [written]
    have unnamed : CodePoint.ofChar 'u' ≠ CodePoint.ofChar 'N' := by decide
    exact unescape_escape others position point (CodePoint.ofChar 'u' :: Text.ofHex 4 point.val)
      (by simpa using unnamed) (escape_numbered point.val low point.isLt rest)

end Values

/-- By induction on the text: each of its code points takes one step. -/
theorem unescape_flatMap (fuel position : Nat) (text : Text) (enough : text.length ≤ fuel) :
    ScriptString.unescape fuel position (text.flatMap Json.plainPoint) = .ok text := by
  induction text generalizing fuel position with
  | nil => cases fuel <;> rfl
  | cons point text ih =>
      obtain ⟨fuel, rfl⟩ : ∃ less, fuel = less + 1 :=
        Nat.exists_eq_succ_of_ne_zero (Nat.ne_of_gt (Nat.zero_lt_of_lt enough))
      rw [List.flatMap_cons]
      exact unescape_plainPoint (fun next => ih fuel next (by simpa using enough)) position point

/-- No code point of a text without surrogates marks a byte. -/
theorem decodingReason?_of_isScalar (text : Text) (scalar : text.IsScalar) :
    decodingReason? text = none := by
  have unmarked : (text.any fun point => (markedByte? point).isSome) = false := by
    rw [List.any_eq_false]
    intro point member marked
    have proper := scalar point member
    rw [CodePoint.isSurrogate, Bool.and_eq_false_iff, decide_eq_false_iff_not,
      decide_eq_false_iff_not] at proper
    rw [markedByte?, if_neg (by simp only [Bool.and_eq_true, decide_eq_true_eq]; omega)] at marked
    cases marked
  rw [decodingReason?, unmarked]
  split <;> rfl

theorem isScalar_flatMap (text : Text) (scalar : text.IsScalar) :
    Text.IsScalar (text.flatMap Json.plainPoint) := by
  intro point member
  rcases mem_flatMap text point member with ascii | ⟨own, _⟩
  · rw [CodePoint.isSurrogate, Bool.and_eq_false_iff, decide_eq_false_iff_not]
    omega
  · exact scalar point own

/-- The value of the string is the text. -/
theorem value_literal (text : Text) (scalar : text.IsScalar) :
    ScriptString.value [] (text.flatMap Json.plainPoint) = .ok (.text text) := by
  have unmarked := decodingReason?_of_isScalar _ (isScalar_flatMap text scalar)
  have long := length_le_flatMap text
  have read := unescape_flatMap ((text.flatMap Json.plainPoint).length + 1) 0 text (by omega)
  unfold ScriptString.value
  simp only [unmarked, read]
  rfl

/-- Whether a text is one literal of a value, alone on its line. -/
structure IsLiteralOf (literal value : Text) : Prop where
  /-- No line ends in the literal. -/
  inLine : ∀ point ∈ literal, 0x20 ≤ point.val
  /-- Wherever the literal stands, a script cuts it off as a whole, as one string that has the
  value.  Behind the empty one there must be no other quote. -/
  token : ∃ rest body, literal = CodePoint.ofChar '"' :: rest ∧
    ScriptString.value [] body = .ok (.text value) ∧
    ∀ place behind, (value = [] → behind.head? ≠ some (CodePoint.ofChar '"')) →
      cut place '"' (rest ++ behind) = .ok (mark place (.string [] body), place, behind)
  /-- The declarations of a module are read with the same value. -/
  read : ∀ behind, read? (literal ++ behind) = some (value, behind)

theorem isLiteralOf_ofText (text : Text) (scalar : text.IsScalar) :
    IsLiteralOf (ofText text) text where
  inLine point member := by
    rcases mem_ofText text point member with ascii | own
    · exact ascii.1
    · exact own.2
  token := by
    refine ⟨_, _, ofText_eq text, value_literal text scalar, fun place behind apart => ?_⟩
    rw [List.append_assoc]
    exact cut_literal place text behind apart
  read behind := read?_ofText text behind

end Literal

end EventForge
