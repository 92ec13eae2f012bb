import EventForge.Proofs.Schema.Lookup
import Mathlib.Data.List.Chain

/-!
# Attribute names

A name in snake case has the letters and digits of the name, in small letters and in their order, and
single underscores between them.  One stands in front of every capital that comes directly behind a
small letter or a digit.  An attribute is such a name that neither a module nor an event class
reserves.
-/

namespace EventForge.Identifier

def underscore : CodePoint := CodePoint.ofChar '_'

/-- A name without its underscores. -/
def letters (name : Text) : Text := name.filter fun point => point ≠ underscore

/-- Whether two neighbours are a small letter or digit and a capital. -/
def IsBoundary (before after : CodePoint) : Prop :=
  (before.isAsciiLower = true ∨ before.isAsciiDigit = true) ∧ after.isAsciiUpper = true

@[simp] theorem letters_append (front back : Text) :
    letters (front ++ back) = letters front ++ letters back := List.filter_append ..

@[simp] theorem letters_underscore (rest : Text) : letters (underscore :: rest) = letters rest := by
  simp [letters]

theorem letters_cons (point : CodePoint) (rest : Text) :
    letters (point :: rest) = letters [point] ++ letters rest :=
  letters_append [point] rest

theorem letters_of_ne (point : CodePoint) (rest : Text) (letter : point ≠ underscore) :
    letters (point :: rest) = point :: letters rest := by
  simp [letters, letter]

theorem IsBoundary.before_ne {before after : CodePoint} (boundary : IsBoundary before after) :
    before ≠ underscore := by
  rintro rfl
  exact absurd boundary.1 (by decide)

theorem IsBoundary.after_ne {before after : CodePoint} (boundary : IsBoundary before after) :
    after ≠ underscore := by
  rintro rfl
  exact absurd boundary.2 (by decide)

/-!
## Letters stay

No step of the way to snake case adds or drops anything but underscores.
-/

theorem letters_markWords (inWord : Bool) (name : Text) :
    letters (markWords inWord name) = letters name := by
  fun_induction markWords inWord name with
  | case1 | case2 => rfl
  | case3 inWord point next rest _ ih | case5 inWord point next rest _ _ ih =>
      rw [letters_cons, ih, ← letters_cons]
  | case4 inWord point next rest _ _ ih =>
      calc letters (point :: underscore :: next :: markWords true rest)
        _ = letters [point] ++ (letters [next] ++ letters (markWords true rest)) := by
            rw [letters_cons, letters_underscore, letters_cons next]
        _ = letters (point :: next :: rest) := by
            rw [ih, ← letters_cons, ← letters_cons]

theorem letters_markCapitals (name : Text) : letters (markCapitals name) = letters name := by
  fun_induction markCapitals name with
  | case1 | case2 => rfl
  | case3 point next rest _ ih =>
      change letters (point :: underscore :: markCapitals (next :: rest)) = _
      rw [letters_cons, letters_underscore, ih, ← letters_cons]
  | case4 point next rest _ ih => rw [letters_cons, ih, ← letters_cons]

theorem letters_mergeUnderscores (name : Text) : letters (mergeUnderscores name) = letters name := by
  fun_induction mergeUnderscores name with
  | case1 | case2 => rfl
  | case3 point next rest both ih =>
      simp only [Bool.and_eq_true, decide_eq_true_eq] at both
      have mark : point = underscore := Fin.ext both.1
      rw [ih, mark, letters_underscore]
  | case4 point next rest _ ih => rw [letters_cons, ih, ← letters_cons]

theorem toAsciiLower_eq_underscore_iff (point : CodePoint) :
    point.toAsciiLower = underscore ↔ point = underscore := by
  have value := CodePoint.toAsciiLower_val point
  have mark : underscore.val = 95 := rfl
  rw [Fin.ext_iff, Fin.ext_iff, mark]
  split at value <;> omega

theorem letters_toAsciiLower (name : Text) :
    letters name.toAsciiLower = (letters name).toAsciiLower := by
  simp only [letters, Text.toAsciiLower, List.filter_map]
  congr 1
  apply List.filter_congr
  intro point _
  simp [toAsciiLower_eq_underscore_iff]

theorem letters_snakeCase (name : Text) (ascii : name.IsAscii) :
    letters (snakeCase name) = letters name.lower := by
  rw [snakeCase_ascii name ascii, letters_mergeUnderscores, letters_toAsciiLower,
    letters_markCapitals, letters_markWords, ← letters_toAsciiLower, Text.lower_ascii name ascii]

/-!
## Underscores at capitals
-/

/-- Once capitals are marked none stands directly behind a small letter or digit. -/
theorem isChain_markCapitals (name : Text) :
    (markCapitals name).IsChain fun before after => ¬IsBoundary before after := by
  fun_induction markCapitals name with
  | case1 => exact .nil
  | case2 point => exact .singleton point
  | case3 point next rest _ ih =>
      obtain ⟨others, shape⟩ := List.head?_eq_some_iff.mp (head?_markCapitals (next :: rest))
      rw [shape] at ih ⊢
      have behind : ¬IsBoundary point underscore := fun boundary => boundary.after_ne rfl
      have front : ¬IsBoundary underscore next := fun boundary => boundary.before_ne rfl
      exact .cons_cons behind (.cons_cons front ih)
  | case4 point next rest apart ih =>
      obtain ⟨others, shape⟩ := List.head?_eq_some_iff.mp (head?_markCapitals (next :: rest))
      rw [shape] at ih ⊢
      exact .cons_cons (by simpa [IsBoundary] using apart) ih

/-- Where letters are neighbours without underscores, at most underscores stand between them. -/
theorem exists_gap (text front behind : Text) (before after : CodePoint)
    (split : letters text = front ++ before :: after :: behind) :
    ∃ first gap second, text = first ++ before :: (gap ++ after :: second) ∧
      letters first = front ∧ letters gap = [] ∧ letters second = behind := by
  obtain ⟨first, rest, rfl, firstLetters, restLetters⟩ := List.filter_eq_append_iff.mp split
  obtain ⟨marks, rest, rfl, onlyMarks, _, restLetters⟩ := List.filter_eq_cons_iff.mp restLetters
  obtain ⟨gap, second, rfl, onlyGap, _, secondLetters⟩ := List.filter_eq_cons_iff.mp restLetters
  have noLetters : letters marks = [] := List.filter_eq_nil_iff.mpr onlyMarks
  refine ⟨first ++ marks, gap, second, by simp, ?_, List.filter_eq_nil_iff.mpr onlyGap,
    secondLetters⟩
  rw [letters_append, noLetters, List.append_nil]
  exact firstLetters

/-- Once capitals are marked an underscore stands directly in front of every capital that follows a
small letter or a digit. -/
theorem markCapitals_boundary (name front behind : Text) (before capital : CodePoint)
    (split : letters name = front ++ before :: capital :: behind)
    (boundary : IsBoundary before capital) :
    ∃ first second, markCapitals name = first ++ underscore :: capital :: second ∧
      letters first = front ++ [before] ∧ letters second = behind := by
  have apart := isChain_markCapitals name
  rw [← letters_markCapitals] at split
  obtain ⟨first, gap, second, shape, firstLetters, gapLetters, secondLetters⟩ :=
    exists_gap _ _ _ _ _ split
  rw [shape] at apart ⊢
  rcases List.eq_nil_or_concat' gap with rfl | ⟨marks, mark, rfl⟩
  · -- Without a gap the two would be neighbours.
    exact absurd boundary (List.isChain_append_cons_cons.mp apart).2.1
  · rw [letters_append, List.append_eq_nil_iff] at gapLetters
    have isMark : mark = underscore := by
      by_contra letter
      rw [letters_of_ne mark [] letter] at gapLetters
      cases gapLetters.2
    refine ⟨first ++ before :: marks, second, by simp [isMark], ?_, secondLetters⟩
    rw [letters_append, letters_of_ne before marks boundary.before_ne, firstLetters, gapLetters.1]

/-! ## Merging underscores -/

theorem mergeUnderscores_cons (point : CodePoint) (rest : Text) (letter : point ≠ underscore) :
    mergeUnderscores (point :: rest) = point :: mergeUnderscores rest := by
  have value : ¬point.val = 0x5F := fun mark => letter (Fin.ext mark)
  cases rest with
  | nil => rfl
  | cons next rest => rw [mergeUnderscores, if_neg (by simp [value])]

/-- Underscores are merged on both sides of a letter by themselves. -/
theorem mergeUnderscores_append (front rest : Text) (point : CodePoint)
    (letter : point ≠ underscore) :
    mergeUnderscores (front ++ point :: rest) =
      mergeUnderscores front ++ mergeUnderscores (point :: rest) := by
  have value : ¬point.val = 0x5F := fun mark => letter (Fin.ext mark)
  fun_induction mergeUnderscores front with
  | case1 => rfl
  | case2 first => simp [mergeUnderscores, value]
  | case3 first next others both ih => simpa [mergeUnderscores, both] using ih
  | case4 first next others apart ih => simpa [mergeUnderscores, apart] using ih

theorem getLast?_mergeUnderscores (text : Text) :
    (mergeUnderscores text).getLast? = text.getLast? := by
  fun_induction mergeUnderscores text with
  | case1 | case2 => rfl
  | case3 point next rest both ih => rw [ih, List.getLast?_cons_cons]
  | case4 point next rest apart ih =>
      obtain ⟨others, shape⟩ := List.head?_eq_some_iff.mp (head?_mergeUnderscores (next :: rest))
      rw [shape] at ih ⊢
      rw [List.getLast?_cons_cons, ih, List.getLast?_cons_cons]

theorem isChain_mergeUnderscores (text : Text) :
    (mergeUnderscores text).IsChain fun first second =>
      ¬(first = underscore ∧ second = underscore) := by
  fun_induction mergeUnderscores text with
  | case1 => exact .nil
  | case2 point => exact .singleton point
  | case3 point next rest both ih => exact ih
  | case4 point next rest apart ih =>
      obtain ⟨others, shape⟩ := List.head?_eq_some_iff.mp (head?_mergeUnderscores (next :: rest))
      rw [shape] at ih ⊢
      refine .cons_cons ?_ ih
      rintro ⟨rfl, rfl⟩
      exact apart rfl

/-- An underscore in front of a letter is still there when underscores are merged. -/
theorem mergeUnderscores_boundary (first second : Text) (point : CodePoint)
    (letter : point ≠ underscore) :
    ∃ front, mergeUnderscores (first ++ underscore :: point :: second) =
        front ++ underscore :: point :: mergeUnderscores second ∧
      letters front = letters first := by
  have ends : (mergeUnderscores (first ++ [underscore])).getLast? = some underscore := by
    rw [getLast?_mergeUnderscores, List.getLast?_concat]
  obtain ⟨front, shape⟩ := List.getLast?_eq_some_iff.mp ends
  refine ⟨front, ?_, ?_⟩
  · have regrouped : first ++ underscore :: point :: second =
        (first ++ [underscore]) ++ point :: second := by simp
    rw [regrouped, mergeUnderscores_append _ _ _ letter, shape,
      mergeUnderscores_cons _ _ letter, List.append_assoc, List.singleton_append]
  · have kept := letters_mergeUnderscores (first ++ [underscore])
    rw [shape] at kept
    simpa using kept

/-! ## Names in snake case -/

/-- Whether a text is the name in snake case of a name. -/
structure IsSnakeCaseOf (snake name : Text) : Prop where
  plain : isPlain snake = true
  small : ∀ point ∈ snake, point.isAsciiUpper = false
  single : ¬[underscore, underscore] <:+: snake
  begins : ∀ point ∈ snake.head?, point.isDigit = false
  /-- Only underscores are put in or merged. -/
  sameLetters : letters snake = letters name.lower
  /-- An underscore stands in front of the letter of a capital behind a small letter or digit. -/
  boundaries : ∀ front before capital behind, name = front ++ before :: capital :: behind →
    IsBoundary before capital →
      ∃ first second, snake = first ++ underscore :: capital.toAsciiLower :: second ∧
        letters first = letters (Text.lower (front ++ [before])) ∧
        letters second = letters (Text.lower behind)

theorem isDigit_of_isFirst (point : CodePoint) (first : isFirst point = true) :
    point.isDigit = false := by
  have bounds := (isFirst_iff point).mp first
  rw [Bool.eq_false_iff]
  intro digit
  simp only [CodePoint.isDigit, CodePoint.inRanges, List.any_eq_true, Bool.and_eq_true,
    decide_eq_true_eq] at digit
  obtain ⟨range, member, low, high⟩ := digit
  have apart : ∀ range ∈ CodePoint.digitRanges, range.2 < 65 ∨ 122 < range.1 := by decide
  have outside := apart range member
  omega

theorem snakeCase_boundary (name front behind : Text) (before capital : CodePoint)
    (ascii : name.IsAscii) (split : name = front ++ before :: capital :: behind)
    (boundary : IsBoundary before capital) :
    ∃ first second, snakeCase name = first ++ underscore :: capital.toAsciiLower :: second ∧
      letters first = letters (Text.lower (front ++ [before])) ∧
      letters second = letters (Text.lower behind) := by
  have marked : letters (markWords false name) =
      letters front ++ before :: capital :: letters behind := by
    rw [letters_markWords, split, letters_append, letters_of_ne _ _ boundary.before_ne,
      letters_of_ne _ _ boundary.after_ne]
  obtain ⟨first, second, shape, firstLetters, secondLetters⟩ :=
    markCapitals_boundary _ _ _ _ _ marked boundary
  have letter : capital.toAsciiLower ≠ underscore := fun mark =>
    boundary.after_ne ((toAsciiLower_eq_underscore_iff capital).mp mark)
  have lowered : Text.toAsciiLower (first ++ underscore :: capital :: second) =
      Text.toAsciiLower first ++ underscore :: capital.toAsciiLower :: Text.toAsciiLower second := by
    rw [Text.toAsciiLower_append]
    rfl
  obtain ⟨merged, mergedShape, mergedLetters⟩ :=
    mergeUnderscores_boundary (Text.toAsciiLower first) (Text.toAsciiLower second) _ letter
  have asciiFront : Text.IsAscii (front ++ [before]) := fun point member =>
    ascii point (by rw [split]; grind)
  have asciiBehind : Text.IsAscii behind := fun point member =>
    ascii point (by rw [split]; simp [member])
  refine ⟨merged, mergeUnderscores (Text.toAsciiLower second), ?_, ?_, ?_⟩
  · rw [snakeCase_ascii name ascii, shape, lowered, mergedShape]
  · rw [mergedLetters, letters_toAsciiLower, firstLetters, Text.lower_ascii _ asciiFront,
      letters_toAsciiLower, letters_append, letters_of_ne _ _ boundary.before_ne]
    rfl
  · rw [letters_mergeUnderscores, letters_toAsciiLower, secondLetters,
      Text.lower_ascii _ asciiBehind, letters_toAsciiLower]

theorem isSnakeCaseOf_snakeCase (name : Text) (plain : isPlain name = true) :
    IsSnakeCaseOf (snakeCase name) name := by
  have ascii := isAscii_of_isLater name (isLater_of_isPlain name plain)
  have snake := isPlain_snakeCase name plain
  exact {
    plain := snake
    small := fun point member => (small_snakeCase name ascii point member).2
    single := by
      intro pair
      rw [snakeCase_ascii name ascii] at pair
      have chain := List.IsChain.infix (isChain_mergeUnderscores _) pair
      exact (List.isChain_pair.mp chain) ⟨rfl, rfl⟩
    begins := by
      intro point head
      obtain ⟨rest, shape⟩ := List.head?_eq_some_iff.mp head
      rw [shape, isPlain, Bool.and_eq_true] at snake
      exact isDigit_of_isFirst point snake.1
    sameLetters := letters_snakeCase name ascii
    boundaries := fun front before capital behind split =>
      snakeCase_boundary name front behind before capital ascii split }

/-- A name in snake case has the letters of the name with single underscores at its capitals, and
attributes are such names that nothing else has; both are final. -/
theorem attribute_names_are_settled (name : Text) (plain : isPlain name = true) :
    IsSnakeCaseOf (snakeCase name) name ∧ snakeCase (snakeCase name) = snakeCase name ∧
      attributeName name ∉ moduleWords ∧ attributeName name ∉ eventAttributes ∧
      attributeName (attributeName name) = attributeName name := by
  have ascii := isAscii_of_isLater name (isLater_of_isPlain name plain)
  have free := attributeName_not_reserved name
  rw [reservedNames, List.mem_append, not_or] at free
  exact ⟨isSnakeCaseOf_snakeCase name plain, snakeCase_snakeCase name ascii, free.1, free.2,
    attributeName_attributeName name ascii⟩

theorem attribute_names_are_settled_request :
    isPlain "HTTPRequest2Id" = true ∧ IsSnakeCaseOf "http_request2_id" "HTTPRequest2Id" := by
  have plain : isPlain "HTTPRequest2Id" = true := by decide
  have written : snakeCase "HTTPRequest2Id" = ("http_request2_id" : Text) := by decide
  have settled := attribute_names_are_settled "HTTPRequest2Id" plain
  rw [written] at settled
  exact ⟨plain, settled.1⟩

end EventForge.Identifier
