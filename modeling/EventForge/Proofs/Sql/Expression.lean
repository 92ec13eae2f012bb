import EventForge.Proofs.Outcome
import EventForge.Proofs.Sql.Spelling
import EventForge.Sql.Reading.Statement

/-!
# Reading expressions

Readers pass on what they leave behind; names are read as columns.
-/

namespace EventForge

/-!
## Readers on known tokens

What the small readers do on a token that is a known word, a name, a symbol or a variable.
-/

namespace SqlToken

@[simp] theorem isWord_ofWord (word before written : Text) :
    isWord word (ofWord before written) = decide (written.toAsciiLower = word) := rfl

@[simp] theorem isWord_ofSymbol (word before written : Text) :
    isWord word (ofSymbol before written) = false := by
  simp [isWord, ofSymbol]

@[simp] theorem isWord_ofNumber (word before : Text) (number : Nat) :
    isWord word (ofNumber before number) = false := by
  simp [isWord, ofNumber]

@[simp] theorem isSymbol_ofSymbol (symbol before written : Text) :
    isSymbol symbol (ofSymbol before written) = decide (written = symbol) := rfl

@[simp] theorem isSymbol_ofWord (symbol before written : Text) :
    isSymbol symbol (ofWord before written) = false := by
  simp [isSymbol, ofWord]

@[simp] theorem isSymbol_ofNumber (symbol before : Text) (number : Nat) :
    isSymbol symbol (ofNumber before number) = false := by
  simp [isSymbol, ofNumber]

/-- Words that readers ask for where a name can stand. -/
def askedWords : List Text := List.map Text.ofString [
  "all", "case", "cast", "check", "constraint", "current_date", "current_time",
  "current_timestamp", "default", "delete", "distinct", "exists", "foreign", "if", "indexed",
  "not", "null", "on", "primary", "raise", "unique"]

theorem askedWords_sublist : askedWords.Sublist Identifier.databaseWords := by
  rw [askedWords, Identifier.databaseWords]
  apply List.Sublist.map
  repeat first | apply List.Sublist.cons_cons | apply List.Sublist.cons
  exact .slnil

/-- A usable name is no word that a reader asks for. -/
theorem lower_ne_of_isUsable (name word : Text) (usable : Identifier.isUsable name = true)
    (asked : word ∈ askedWords) : name.toAsciiLower ≠ word := by
  rintro rfl
  exact ((Identifier.isUsable_iff name).mp usable).2.1 (askedWords_sublist.subset asked)

end SqlToken

namespace SqlReader

variable {First Second : Type}

@[simp] theorem run_pure (value : First) (tokens : List SqlToken) :
    (pure value : SqlReader First) tokens = .ok (value, tokens) := (rfl)

@[simp] theorem run_bind (first : SqlReader First) (next : First → SqlReader Second)
    (tokens : List SqlToken) :
    (first >>= next) tokens = first tokens >>= fun found => next found.1 found.2 := (rfl)

@[simp] theorem run_map (change : First → Second) (first : SqlReader First)
    (tokens : List SqlToken) :
    (change <$> first) tokens =
      first tokens >>= fun found => .ok (change found.1, found.2) := (rfl)

@[simp] theorem run_ite (condition : Prop) [Decidable condition] (first second : SqlReader First)
    (tokens : List SqlToken) :
    (if condition then first else second) tokens =
      if condition then first tokens else second tokens := by
  split <;> rfl

@[simp] theorem run_get (tokens : List SqlToken) :
    (get : SqlReader (List SqlToken)) tokens = .ok (tokens, tokens) := (rfl)

@[simp] theorem run_set (later tokens : List SqlToken) :
    (set later : SqlReader PUnit) tokens = .ok (.unit, later) := (rfl)

@[simp] theorem word_nil (text : Text) : word text [] = .ok (false, []) := (rfl)

@[simp] theorem word_cons (text : Text) (token : SqlToken) (tokens : List SqlToken) :
    word text (token :: tokens) =
      if token.isWord text then .ok (true, tokens) else .ok (false, token :: tokens) := by
  simp only [word, run_bind, atWord, List.head?_cons, Option.map_some, Option.getD_some,
    Outcome.ok_bind, run_ite, skip, List.drop_one, List.tail_cons, run_pure]

@[simp] theorem symbol_nil (text : Text) : symbol text [] = .ok (false, []) := (rfl)

@[simp] theorem symbol_cons (text : Text) (token : SqlToken) (tokens : List SqlToken) :
    symbol text (token :: tokens) =
      if token.isSymbol text then .ok (true, tokens) else .ok (false, token :: tokens) := by
  simp only [symbol, run_bind, atSymbol, List.head?_cons, Option.map_some, Option.getD_some,
    Outcome.ok_bind, run_ite, skip, List.drop_one, List.tail_cons, run_pure]

@[simp] theorem atWord_cons (text : Text) (token : SqlToken) (tokens : List SqlToken) :
    atWord text (token :: tokens) = .ok (token.isWord text, token :: tokens) := (rfl)

@[simp] theorem atWords_cons (texts : List Text) (token : SqlToken) (tokens : List SqlToken) :
    atWords texts (token :: tokens) =
      .ok (texts.any fun text => token.isWord text, token :: tokens) := (rfl)

@[simp] theorem atSymbol_cons (text : Text) (token : SqlToken) (tokens : List SqlToken) :
    atSymbol text (token :: tokens) = .ok (token.isSymbol text, token :: tokens) := (rfl)

theorem need_of_isSymbol (text : Text) (token : SqlToken) (tokens : List SqlToken)
    (found : token.isSymbol text = true) : need text (token :: tokens) = .ok ((), tokens) := by
  simp [need, found]

theorem reservedWords_sublist : reservedWords.Sublist Identifier.databaseWords := by
  rw [reservedWords, Identifier.databaseWords]
  apply List.Sublist.map
  repeat first | apply List.Sublist.cons_cons | apply List.Sublist.cons
  exact .slnil

theorem joiningWords_sublist : joiningWords.Sublist Identifier.databaseWords := by
  rw [joiningWords, Identifier.databaseWords]
  apply List.Sublist.map
  repeat first | apply List.Sublist.cons_cons | apply List.Sublist.cons
  exact .slnil

/-- The lower form of a usable name is none of the words that the database keeps. -/
theorem not_mem_of_isUsable (words : List Text) (kept : words.Sublist Identifier.databaseWords)
    (name : Text) (usable : Identifier.isUsable name = true) : name.toAsciiLower ∉ words := by
  exact fun member => ((Identifier.isUsable_iff name).mp usable).2.1 (kept.subset member)

theorem nameOf?_ofWord (before name : Text) (usable : Identifier.isUsable name = true) :
    nameOf? (SqlToken.ofWord before name) = some name := by
  have free := not_mem_of_isUsable reservedWords reservedWords_sublist name usable
  simp [nameOf?, SqlToken.ofWord, free]

theorem plainName?_ofWord (before name : Text) (usable : Identifier.isUsable name = true) :
    plainName? (SqlToken.ofWord before name) = some name := by
  have free := not_mem_of_isUsable joiningWords joiningWords_sublist name usable
  rw [plainName?, nameOf?_ofWord before name usable]
  simp [SqlToken.ofWord, free]

theorem name_ofWord (before found : Text) (tokens : List SqlToken)
    (usable : Identifier.isUsable found = true) :
    name (SqlToken.ofWord before found :: tokens) = .ok (found, tokens) := by
  simp [name, name?, nameOf?_ofWord before found usable]

end SqlReader

end EventForge

/-!
## Readers on words of the language

A word in capitals is told from others by its small letters.
-/

namespace EventForge.SqlReader

open SqlToken

section Keyword

variable {written lower : Text} (lowered : written.toAsciiLower = lower) (before : Text)
  (tokens : List SqlToken)

include lowered

theorem word_self : word lower (ofWord before written :: tokens) = .ok (true, tokens) := by
  simp [lowered]

theorem word_other (text : Text) (other : lower ≠ text) :
    word text (ofWord before written :: tokens) = .ok (false, ofWord before written :: tokens) := by
  simp [lowered, other]

theorem word_of_not_mem (texts : List Text) (others : lower ∉ texts) (text : Text)
    (member : text ∈ texts) :
    word text (ofWord before written :: tokens) = .ok (false, ofWord before written :: tokens) :=
  word_other lowered before tokens text fun same => others (same ▸ member)

theorem words_self : words [lower] (ofWord before written :: tokens) = .ok ((), tokens) := by
  simp [words, lowered]

theorem atWords_of_mem (texts : List Text) (member : lower ∈ texts) :
    atWords texts (ofWord before written :: tokens) = .ok (true, ofWord before written :: tokens) := by
  simp [lowered, member]

theorem atWords_of_not_mem (texts : List Text) (other : lower ∉ texts) :
    atWords texts (ofWord before written :: tokens) =
      .ok (false, ofWord before written :: tokens) := by
  have absent : (texts.any fun text => decide (lower = text)) = false := by
    simp only [List.any_eq_false, decide_eq_true_eq]
    exact fun text member same => other (same ▸ member)
  simp only [atWords_cons, isWord_ofWord, lowered, absent]

/-- A reserved word is no other name. -/
theorem otherName_reserved (reserved : lower ∈ reservedWords) (other : lower ≠ "as") :
    otherName (ofWord before written :: tokens) = .ok (none, ofWord before written :: tokens) := by
  have unnamed : plainName? (ofWord before written) = none := by
    simp [plainName?, nameOf?, SqlToken.ofWord, lowered, reserved]
  simp [otherName, lowered, other, plainName, unnamed]

end Keyword

end EventForge.SqlReader

/-!
## Reading names and variables as expressions

A usable name is read as a column and a variable as a parameter, whatever operators could have
followed.
-/

namespace EventForge.SqlReader

open SqlToken

/-- The words that can open an expression are no usable names. -/
theorem word_ofWord (text before name : Text) (tokens : List SqlToken)
    (usable : Identifier.isUsable name = true)
    (asked : text ∈ askedWords) :
    word text (ofWord before name :: tokens) = .ok (false, ofWord before name :: tokens) := by
  simp [lower_ne_of_isUsable name text usable asked]

@[simp] theorem negativeNumber?_ofWord (before written : Text) (tokens : List SqlToken) :
    negativeNumber? (ofWord before written :: tokens) =
      .ok (none, ofWord before written :: tokens) := by
  cases tokens <;> simp [negativeNumber?]

@[simp] theorem negativeNumber?_ofNumber (before : Text) (number : Nat) (tokens : List SqlToken) :
    negativeNumber? (ofNumber before number :: tokens) =
      .ok (none, ofNumber before number :: tokens) := by
  cases tokens <;> simp [negativeNumber?]

theorem constant?_ofWord (before name : Text) (tokens : List SqlToken)
    (usable : Identifier.isUsable name = true) :
    constant? (ofWord before name :: tokens) = .ok (none, ofWord before name :: tokens) := by
  have notNull := lower_ne_of_isUsable name "null" usable
    (by simp [askedWords, Text.ofString_inj])
  have notTime := lower_ne_of_isUsable name "current_time" usable
    (by simp [askedWords, Text.ofString_inj])
  have notDate := lower_ne_of_isUsable name "current_date" usable
    (by simp [askedWords, Text.ofString_inj])
  have notStamp := lower_ne_of_isUsable name "current_timestamp" usable
    (by simp [askedWords, Text.ofString_inj])
  have none : constantOf? (ofWord before name) = none := by
    simp [constantOf?, ofWord, notNull, notTime, notDate, notStamp]
  simp [constant?, none]

/-- What an expression ends in front of, if its operators must bind with a strength. -/
inductive Stops (strength : Strength) : List SqlToken → Prop
  | nil : Stops strength []
  | comma (before : Text) (tokens : List SqlToken) :
      Stops strength (ofSymbol before [CodePoint.ofChar ','] :: tokens)
  | closing (before : Text) (tokens : List SqlToken) :
      Stops strength (ofSymbol before [CodePoint.ofChar ')'] :: tokens)
  | source (before : Text) (tokens : List SqlToken) :
      Stops strength (ofWord before "FROM" :: tokens)
  | bound (before : Text) (tokens : List SqlToken) (strong : andStrength < strength) :
      Stops strength (ofWord before "AND" :: tokens)

/-- No dot and no parenthesis stands first. -/
def IsAlone (tokens : List SqlToken) : Prop :=
  symbol "." tokens = .ok (false, tokens) ∧ symbol "(" tokens = .ok (false, tokens)

theorem isAlone_nil : IsAlone [] := ⟨rfl, rfl⟩

theorem isAlone_ofWord (before written : Text) (tokens : List SqlToken) :
    IsAlone (ofWord before written :: tokens) := by
  simp [IsAlone]

theorem isAlone_of_stops (strength : Strength) (tokens : List SqlToken)
    (stops : Stops strength tokens) : IsAlone tokens := by
  cases stops with
  | nil => exact isAlone_nil
  | comma | closing => simp +decide [IsAlone]
  | source | bound => exact isAlone_ofWord _ _ _

theorem atBareName_ofWord (before name : Text) (tokens : List SqlToken)
    (usable : Identifier.isUsable name = true) :
    atBareName (ofWord before name :: tokens) = .ok (true, ofWord before name :: tokens) := by
  have bare : bareName? (ofWord before name) = some name := by
    have notIndexed := lower_ne_of_isUsable name "indexed" usable
      (by simp [askedWords, Text.ofString_inj])
    have plain := plainName?_ofWord before name usable
    simp only [bareName?, isWord_ofWord, notIndexed, decide_false, Bool.false_eq_true, if_false,
      plain]
    rfl
  simp [atBareName, bare]

theorem atQuotes_ofWord (before name : Text) (tokens : List SqlToken)
    (usable : Identifier.isUsable name = true) :
    atQuotes (ofWord before name :: tokens) = .ok (false, ofWord before name :: tokens) := by
  have identifier := Identifier.isIdentifierText_of_isUsable name usable
  cases name with
  | nil => simp [Identifier.isIdentifierText] at identifier
  | cons first rest =>
      simp only [Identifier.isIdentifierText, Bool.and_eq_true] at identifier
      have unquoted : (first == CodePoint.ofChar '"') = false := by
        rw [beq_eq_false_iff_ne]
        rintro rfl
        exact absurd identifier.1 (by decide)
      simp [atQuotes, ofWord, unquoted]

theorem namedAt_ofWord (fuel : Nat) (before name : Text) (tokens : List SqlToken)
    (usable : Identifier.isUsable name = true) (alone : IsAlone tokens) :
    namedAt (fuel + 1) (ofWord before name :: tokens) =
      .ok (.column [name] false, tokens) := by
  have noText : atText (ofWord before name :: tokens) =
      .ok (false, ofWord before name :: tokens) := by simp [atText, ofWord]
  have noDot : nextIsSymbol "." (ofWord before name :: tokens) = .ok
      (((ofWord before name :: tokens)[1]?.map (isSymbol ".")).getD false,
        ofWord before name :: tokens) := rfl
  have constant := constant?_ofWord before name tokens usable
  have quotes := atQuotes_ofWord before name tokens usable
  have bare := atBareName_ofWord before name tokens usable
  have named := name_ofWord before name tokens usable
  obtain ⟨dot, parenthesis⟩ := alone
  simp only [namedAt, run_bind, noText, noDot, Outcome.ok_bind, Bool.false_and, Bool.not_false,
    if_true, constant, quotes, bare, named, dot, symbolIf, parenthesis, run_pure, run_ite,
    Bool.false_eq_true, if_false]

/-- No operator stands first that binds with a strength. -/
theorem takeOperator_stops (strength : Strength) (tokens : List SqlToken)
    (stops : Stops strength tokens) : takeOperator strength tokens = .ok (none, tokens) := by
  cases stops with
  | nil => rfl
  | comma before tokens => rfl
  | closing before tokens => rfl
  | source before tokens => rfl
  | bound before tokens strong =>
      have found : binaryOperator? (ofWord before "AND") = some (2, .and) := rfl
      have weak : ¬strength ≤ 2 := Nat.not_le.mpr strong
      simp [takeOperator, found, weak]

theorem word_stops (strength : Strength) (text : Text) (tokens : List SqlToken)
    (stops : Stops strength tokens) (other : text ≠ "from" ∧ text ≠ "and") :
    word text tokens = .ok (false, tokens) := by
  have notFrom : (("FROM" : Text).toAsciiLower = text) = False :=
    eq_false fun same => other.1 (same ▸ rfl)
  have notAnd : (("AND" : Text).toAsciiLower = text) = False :=
    eq_false fun same => other.2 (same ▸ rfl)
  cases stops <;> simp [notFrom, notAnd]

theorem patternWord?_stops (strength : Strength) (tokens : List SqlToken)
    (stops : Stops strength tokens) : patternWord? tokens = .ok (none, tokens) := by
  cases stops <;> rfl

theorem comparisonBehind_stops (fuel : Nat) (strength : Strength) (first : SqlExpression)
    (tokens : List SqlToken) (stops : Stops strength tokens) :
    comparisonBehind (fuel + 1) first tokens = .ok (none, tokens) := by
  have between := word_stops strength "between" tokens stops (by decide)
  have among := word_stops strength "in" tokens stops (by decide)
  have pattern := patternWord?_stops strength tokens stops
  simp [comparisonBehind, between, among, pattern]

theorem wordIf_of_word (allowed : Bool) (text : Text) (tokens : List SqlToken)
    (absent : word text tokens = .ok (false, tokens)) :
    wordIf allowed text tokens = .ok (false, tokens) := by
  cases allowed with
  | false => rfl
  | true => exact absent

theorem operatorsBehind_stops (fuel : Nat) (strength : Strength) (first : SqlExpression)
    (tokens : List SqlToken) (stops : Stops strength tokens) :
    operatorsBehind (fuel + 2) strength first tokens = .ok (first, tokens) := by
  have operator := takeOperator_stops strength tokens stops
  have compared := comparisonBehind_stops fuel strength first tokens stops
  have collate := wordIf_of_word (strength ≤ collateStrength) "collate" tokens
    (word_stops strength "collate" tokens stops (by decide))
  have not := wordIf_of_word (strength ≤ notStrength) "not" tokens
    (word_stops strength "not" tokens stops (by decide))
  have isNull := word_stops strength "isnull" tokens stops (by decide)
  have notNull := word_stops strength "notnull" tokens stops (by decide)
  have is := word_stops strength "is" tokens stops (by decide)
  simp only [operatorsBehind, run_bind, operator, collate, not, Outcome.ok_bind,
    Bool.false_eq_true, if_false, run_ite, isNull, notNull, is, compared, run_pure, ite_self]

theorem operandAt_ofWord (fuel : Nat) (before name : Text) (tokens : List SqlToken)
    (usable : Identifier.isUsable name = true) (alone : IsAlone tokens) :
    operandAt (fuel + 2) (ofWord before name :: tokens) = .ok (.column [name] false, tokens) := by
  have not := word_ofWord "not" before name tokens usable
    (by simp [askedWords, Text.ofString_inj])
  have case := word_ofWord "case" before name tokens usable
    (by simp [askedWords, Text.ofString_inj])
  have cast := word_ofWord "cast" before name tokens usable
    (by simp [askedWords, Text.ofString_inj])
  have exists_ := word_ofWord "exists" before name tokens usable
    (by simp [askedWords, Text.ofString_inj])
  have raise := word_ofWord "raise" before name tokens usable
    (by simp [askedWords, Text.ofString_inj])
  have named := namedAt_ofWord fuel before name tokens usable alone
  simp only [operandAt, run_bind, negativeNumber?_ofWord, Outcome.ok_bind, not, run_ite,
    symbol_cons, isSymbol_ofWord, Bool.false_eq_true, if_false, case, cast, exists_, raise, named]

theorem namedAt_ofNumber (fuel : Nat) (before : Text) (number : Nat) (tokens : List SqlToken) :
    namedAt (fuel + 1) (ofNumber before number :: tokens) =
      .ok (.parameter (Text.ofNat number), tokens) := by
  have noText : atText (ofNumber before number :: tokens) =
      .ok (false, ofNumber before number :: tokens) := by simp [atText, ofNumber]
  have noDot : nextIsSymbol "." (ofNumber before number :: tokens) = .ok
      (((ofNumber before number :: tokens)[1]?.map (isSymbol ".")).getD false,
        ofNumber before number :: tokens) := rfl
  have constant : constant? (ofNumber before number :: tokens) =
      .ok (some (.parameter (Text.ofNat number)), tokens) := rfl
  simp only [namedAt, run_bind, noText, noDot, Outcome.ok_bind, Bool.false_and, Bool.not_false,
    if_true, constant, run_pure, run_ite]

theorem operandAt_ofNumber (fuel : Nat) (before : Text) (number : Nat) (tokens : List SqlToken) :
    operandAt (fuel + 2) (ofNumber before number :: tokens) =
      .ok (.parameter (Text.ofNat number), tokens) := by
  have named := namedAt_ofNumber fuel before number tokens
  simp only [operandAt, run_bind, negativeNumber?_ofNumber, Outcome.ok_bind, run_ite, word_cons,
    isWord_ofNumber, symbol_cons, isSymbol_ofNumber, Bool.false_eq_true, if_false, named]

/-- A usable name is read as a column up to where the expression ends. -/
theorem expressionAt_ofWord (fuel : Nat) (strength : Strength) (before name : Text)
    (tokens : List SqlToken) (usable : Identifier.isUsable name = true)
    (stops : Stops strength tokens) :
    expressionAt (fuel + 3) strength (ofWord before name :: tokens) =
      .ok (.column [name] false, tokens) := by
  have operand := operandAt_ofWord fuel before name tokens usable
    (isAlone_of_stops strength tokens stops)
  have behind := operatorsBehind_stops fuel strength (.column [name] false) tokens stops
  simp only [expressionAt, run_bind, operand, Outcome.ok_bind, behind]

/-- A variable is read as a parameter up to where the expression ends. -/
theorem expressionAt_ofNumber (fuel : Nat) (strength : Strength) (before : Text) (number : Nat)
    (tokens : List SqlToken) (stops : Stops strength tokens) :
    expressionAt (fuel + 3) strength (ofNumber before number :: tokens) =
      .ok (.parameter (Text.ofNat number), tokens) := by
  have operand := operandAt_ofNumber fuel before number tokens
  have behind := operatorsBehind_stops fuel strength (.parameter (Text.ofNat number)) tokens stops
  simp only [expressionAt, run_bind, operand, Outcome.ok_bind, behind]

end EventForge.SqlReader
