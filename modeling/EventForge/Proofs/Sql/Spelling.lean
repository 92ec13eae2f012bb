import EventForge.Proofs.Schema.Identifier
import EventForge.Proofs.Text.Ascii
import EventForge.Sql.Token

/-!
# Spelling statements

The statements that modules use consist of words, numbered variables, commas and parentheses with
single blanks between them.  Scanning such a text gives back the tokens that it was spelled from.
-/

namespace EventForge

namespace SqlToken

/-- The text of some tokens with what stands in front of each. -/
def spell (tokens : List SqlToken) : Text :=
  tokens.flatMap fun token => token.before ++ token.written

@[simp] theorem spell_nil : spell [] = [] := rfl

@[simp] theorem spell_cons (token : SqlToken) (tokens : List SqlToken) :
    spell (token :: tokens) = token.before ++ token.written ++ spell tokens := rfl

@[simp] theorem spell_append (first second : List SqlToken) :
    spell (first ++ second) = spell first ++ spell second := List.flatMap_append

/-- A word, with a blank in front of it or without. -/
def ofWord (before written : Text) : SqlToken := { kind := .word, before, written }

/-- A variable with a number. -/
def ofNumber (before : Text) (number : Nat) : SqlToken :=
  { kind := .variable, before, written := ("$" : Text) ++ Text.ofNat number }

def ofSymbol (before written : Text) : SqlToken := { kind := .symbol, before, written }

/-- The blank in front of a token. -/
def blank : Text := [CodePoint.ofChar ' ']

/-- What can stand behind a word. -/
def EndsWord (rest : Text) : Prop :=
  ∀ point ∈ rest.head?, point = CodePoint.ofChar ' ' ∨ point = CodePoint.ofChar ',' ∨
    point = CodePoint.ofChar ')' ∨ point = CodePoint.ofChar '('

/-- What a word does not go on with. -/
def StopsWord (rest : Text) : Prop :=
  ∀ point ∈ rest.head?, isWordPoint point = false ∧ point ≠ CodePoint.ofChar '\''

theorem EndsWord.stops {rest : Text} (ends : EndsWord rest) : StopsWord rest := by
  intro point head
  rcases ends point head with rfl | rfl | rfl | rfl <;> decide

/-- What can stand behind a variable. -/
def EndsVariable (rest : Text) : Prop :=
  ∀ point ∈ rest.head?, point = CodePoint.ofChar ' ' ∨ point = CodePoint.ofChar ',' ∨
    point = CodePoint.ofChar ')'

/-- Tokens whose text is scanned as these tokens again. -/
inductive Spells : List SqlToken → Prop
  | nil : Spells []
  | word {before written : Text} {tokens : List SqlToken} (spaced : before = [] ∨ before = blank)
      (plain : Identifier.isPlain written = true) (ends : EndsWord (spell tokens))
      (rest : Spells tokens) : Spells (ofWord before written :: tokens)
  | number {before : Text} {number : Nat} {tokens : List SqlToken}
      (spaced : before = [] ∨ before = blank) (ends : EndsVariable (spell tokens))
      (rest : Spells tokens) : Spells (ofNumber before number :: tokens)
  | symbol {before : Text} {mark : CodePoint} {tokens : List SqlToken}
      (spaced : before = [] ∨ before = blank)
      (known : mark = CodePoint.ofChar ',' ∨ mark = CodePoint.ofChar '(' ∨
        mark = CodePoint.ofChar ')')
      (rest : Spells tokens) : Spells (ofSymbol before [mark] :: tokens)

/-- Whether a text begins with what is no blank and opens no comment. -/
def BeginsToken (text : Text) : Prop :=
  ∃ point rest, text = point :: rest ∧ point.val ≠ 0xFEFF ∧ isBlank point = false ∧
    isLaterBlank point = false ∧ point ≠ CodePoint.ofChar '-' ∧ point ≠ CodePoint.ofChar '/'

theorem separation_of_beginsToken (fuel : Nat) (text : Text) (begins : BeginsToken text) :
    separation fuel text = 0 := by
  obtain ⟨point, rest, rfl, mark, plain, _, minus, slash⟩ := begins
  cases fuel with
  | zero => rfl
  | succ fuel =>
      have comment : commentLength (point :: rest) = 0 := by
        cases rest with
        | nil => rfl
        | cons next rest => simp [commentLength, minus, slash]
      simp [separation, mark, plain, comment]

theorem separation_of_blank (fuel : Nat) (text : Text) (begins : BeginsToken text) :
    separation (fuel + 1) (blank ++ text) = 1 := by
  obtain ⟨point, rest, rfl, _, _, later, _⟩ := id begins
  have none : (point :: rest).takeWhile isLaterBlank = [] := by simp [later]
  have after := separation_of_beginsToken fuel (point :: rest) begins
  have isABlank : isBlank (CodePoint.ofChar ' ') = true := by decide
  have unmarked : (CodePoint.ofChar ' ').val ≠ 0xFEFF := by decide
  simp [blank, separation, isABlank, unmarked, none, after]

/-- A blank that can stand in front of a token is what separates it. -/
theorem separation_spaced (before text : Text) (spaced : before = [] ∨ before = blank)
    (begins : BeginsToken text) :
    separation (before ++ text).length (before ++ text) = before.length := by
  rcases spaced with rfl | rfl
  · exact separation_of_beginsToken _ _ begins
  · have length : (blank ++ text).length = text.length + 1 := by simp [blank]
    rw [length, separation_of_blank text.length text begins]
    rfl

/-- Scanning a text at a token whose length and kind are known. -/
theorem scan_token (fuel : Nat) (token : SqlToken) (rest : Text)
    (spaced : token.before = [] ∨ token.before = blank)
    (begins : BeginsToken (token.written ++ rest))
    (found : tokenAt (token.written ++ rest) = (token.kind, token.written.length)) :
    scan (fuel + 1) (token.before ++ token.written ++ rest) = token :: scan fuel rest := by
  have space := separation_spaced token.before _ spaced begins
  obtain ⟨point, more, text, _⟩ := begins
  rw [List.append_assoc] at *
  simp only [scan, space, List.drop_left, List.take_left, found]
  rw [if_neg (by simp [text])]

theorem isWordPoint_of_isLater (point : CodePoint) (later : Identifier.isLater point = true) :
    isWordPoint point = true := by
  have bounds := (Identifier.isLater_iff point).mp later
  have underscore : point = CodePoint.ofChar '_' ↔ point.val = 95 := Fin.ext_iff
  simp only [isWordPoint, Bool.or_eq_true, CodePoint.isAsciiAlphanumeric_iff, decide_eq_true_eq,
    underscore]
  omega

theorem takeWhile_isWordPoint (written rest : Text)
    (points : ∀ point ∈ written, isWordPoint point = true) (stops : StopsWord rest) :
    (written ++ rest).takeWhile isWordPoint = written := by
  have none : rest.takeWhile isWordPoint = [] := by
    cases rest with
    | nil => rfl
    | cons point rest => exact List.takeWhile_cons_of_neg (by simp [(stops point rfl).1])
  rw [List.takeWhile_append_of_pos points, none, List.append_nil]

theorem beginsToken_of_isFirst (point : CodePoint) (rest : Text)
    (first : Identifier.isFirst point = true) : BeginsToken (point :: rest) := by
  have bounds := (Identifier.isFirst_iff point).mp first
  refine ⟨point, rest, rfl, ?_, ?_, ?_, ?_, ?_⟩
  · omega
  · simp [isBlank]; omega
  · simp [isLaterBlank]; omega
  · simp [CodePoint.eq_ofChar_iff]; omega
  · simp [CodePoint.eq_ofChar_iff]; omega

theorem beginsToken_of_isPlain (written rest : Text) (plain : Identifier.isPlain written = true) :
    BeginsToken (written ++ rest) := by
  cases written with
  | nil => simp [Identifier.isPlain] at plain
  | cons point written =>
      simp only [Identifier.isPlain, Bool.and_eq_true] at plain
      exact beginsToken_of_isFirst point _ plain.1

theorem tokenAt_word (written rest : Text) (plain : Identifier.isPlain written = true)
    (stops : StopsWord rest) : tokenAt (written ++ rest) = (.word, written.length) := by
  have points : ∀ point ∈ written, isWordPoint point = true := fun point member =>
    isWordPoint_of_isLater point (Identifier.isLater_of_isPlain written plain point member)
  have taken := takeWhile_isWordPoint written rest points stops
  cases written with
  | nil => simp [Identifier.isPlain] at plain
  | cons point more =>
      simp only [Identifier.isPlain, Bool.and_eq_true, List.all_eq_true] at plain
      have bounds := (Identifier.isFirst_iff point).mp plain.1
      have isWord := points point (by simp)
      have notDigit : point.isAsciiDigit = false := by
        rw [Bool.eq_false_iff, ne_eq, CodePoint.isAsciiDigit_iff]
        omega
      have noBlob : ((more ++ rest).head? == some (CodePoint.ofChar '\'')) = false := by
        rw [beq_eq_false_iff_ne]
        cases more with
        | nil => exact fun quoted => (stops _ quoted).2 rfl
        | cons next more =>
            intro quoted
            have later := plain.2 next (by simp)
            rw [Option.some.inj quoted] at later
            exact absurd later (by decide)
      have notPoint : point ≠ CodePoint.ofChar '.' := by
        simp [CodePoint.eq_ofChar_iff]
        omega
      rw [List.cons_append] at taken ⊢
      simp only [tokenAt, taken, noBlob, notDigit, isWord, Bool.and_false, Bool.false_eq_true,
        if_true, if_false, Bool.or_eq_true, decide_eq_true_eq, false_or]
      rw [if_neg, if_neg, if_neg, if_neg, if_neg]
      · simp [CodePoint.eq_ofChar_iff]
        omega
      · simp [CodePoint.eq_ofChar_iff]
        omega
      · simp [notPoint]
      · simp [CodePoint.eq_ofChar_iff]
        omega
      · simp [CodePoint.eq_ofChar_iff]
        omega

/-- The digits of a variable are read up to what ends it. -/
theorem variableLength_digits (named : Bool) (digits rest : Text) (inhabited : digits ≠ [])
    (digital : ∀ point ∈ digits, point.isAsciiDigit = true) (ends : EndsVariable rest) :
    variableLength named (digits ++ rest) = (digits.length, true) := by
  induction digits generalizing named with
  | nil => exact absurd rfl inhabited
  | cons point digits ih =>
      have isWord : isWordPoint point = true := by
        have bounds := (CodePoint.isAsciiDigit_iff point).mp (digital point (by simp))
        simp only [isWordPoint, Bool.or_eq_true, CodePoint.isAsciiAlphanumeric_iff]
        omega
      cases digits with
      | nil =>
          cases rest with
          | nil => simp [variableLength, isWord]
          | cons next rest =>
              have stops : variableLength true (next :: rest) = (0, true) := by
                cases rest with
                | nil => rcases ends next (by simp) with rfl | rfl | rfl <;> rfl
                | cons _ _ => rcases ends next (by simp) with rfl | rfl | rfl <;> rfl
              simp [variableLength, isWord, stops]
      | cons next digits =>
          have readRest := ih true (by simp) fun other member => digital other (by simp [member])
          simp only [List.cons_append] at readRest ⊢
          simp [variableLength, isWord, readRest]

theorem tokenAt_variable (number : Nat) (rest : Text) (ends : EndsVariable rest) :
    tokenAt ((("$" : Text) ++ Text.ofNat number) ++ rest) =
      (.variable, (("$" : Text) ++ Text.ofNat number).length) := by
  have read := variableLength_digits false (Text.ofNat number) rest (Text.ofNat_ne_nil number)
    (Text.isAsciiDigit_of_mem_ofNat number) ends
  have text : (("$" : Text) ++ Text.ofNat number) ++ rest =
      CodePoint.ofChar '$' :: (Text.ofNat number ++ rest) := rfl
  have notDigit : (CodePoint.ofChar '$').isAsciiDigit = false := by decide
  rw [text]
  simp only [tokenAt, read, notDigit]
  have mark : ("$" : Text).length = 1 := by decide
  simp +decide [mark]
  omega

theorem tokenAt_symbol (mark : CodePoint) (rest : Text)
    (known : mark = CodePoint.ofChar ',' ∨ mark = CodePoint.ofChar '(' ∨
      mark = CodePoint.ofChar ')') :
    tokenAt ([mark] ++ rest) = (.symbol, 1) := by
  rcases known with rfl | rfl | rfl <;> rfl

/-- Scanning a spelled text, with fuel for its tokens, gives the tokens back. -/
theorem scan_spell (tokens : List SqlToken) (spelled : Spells tokens) (fuel : Nat)
    (enough : tokens.length ≤ fuel) : scan fuel (spell tokens) = tokens := by
  induction spelled generalizing fuel with
  | nil => cases fuel <;> rfl
  | @word before written tokens spaced plain ends _ ih =>
      obtain ⟨fuel, rfl⟩ : ∃ more, fuel = more + 1 := ⟨fuel - 1, by simp at enough; omega⟩
      have begins := beginsToken_of_isPlain written (spell tokens) plain
      rw [spell_cons, scan_token fuel (ofWord before written) _ spaced begins
        (tokenAt_word written _ plain ends.stops), ih fuel (by simpa using enough)]
  | @number before number tokens spaced ends _ ih =>
      obtain ⟨fuel, rfl⟩ : ∃ more, fuel = more + 1 := ⟨fuel - 1, by simp at enough; omega⟩
      have begins : BeginsToken ((("$" : Text) ++ Text.ofNat number) ++ spell tokens) :=
        ⟨CodePoint.ofChar '$', Text.ofNat number ++ spell tokens, rfl, by decide, by decide,
          by decide, by decide, by decide⟩
      rw [spell_cons, scan_token fuel (ofNumber before number) _ spaced begins
        (tokenAt_variable number _ ends), ih fuel (by simpa using enough)]
  | @symbol before mark tokens spaced known _ ih =>
      obtain ⟨fuel, rfl⟩ : ∃ more, fuel = more + 1 := ⟨fuel - 1, by simp at enough; omega⟩
      have begins : BeginsToken ([mark] ++ spell tokens) := by
        refine ⟨mark, spell tokens, rfl, ?_⟩
        rcases known with rfl | rfl | rfl <;> decide
      rw [spell_cons, scan_token fuel (ofSymbol before [mark]) _ spaced begins
        (tokenAt_symbol mark _ known), ih fuel (by simpa using enough)]

theorem length_le_spell (tokens : List SqlToken) (spelled : Spells tokens) :
    tokens.length ≤ (spell tokens).length := by
  induction spelled with
  | nil => simp
  | @word before written tokens _ plain _ _ ih =>
      have long : 0 < written.length := by
        cases written with
        | nil => simp [Identifier.isPlain] at plain
        | cons => simp
      simp [ofWord]
      omega
  | number _ _ _ ih =>
      have long : 0 < ("$" : Text).length := by decide
      simp [ofNumber]
      omega
  | symbol _ _ _ ih =>
      simp [ofSymbol]
      omega

/-- The tokens of a spelled text are those that it was spelled from. -/
theorem ofText_spell (tokens : List SqlToken) (spelled : Spells tokens) :
    ofText (spell tokens) = tokens :=
  scan_spell tokens spelled _ (length_le_spell tokens spelled)

end SqlToken

end EventForge
