import EventForge.Proofs.Text.Ascii
import EventForge.Proofs.Text.Pieces
import EventForge.Schema.Identifier

/-!
# Usable names

A usable name is a plain ASCII identifier, or one with a line feed behind it.  Its attribute is
never empty.
-/

namespace EventForge.Identifier

/-- A letter or underscore with letters, digits and underscores behind it, all of them ASCII. -/
def isPlain : Text → Bool
  | [] => false
  | first :: rest => isFirst first && rest.all isLater

theorem isFirst_iff (point : CodePoint) :
    isFirst point = true ↔
      (65 ≤ point.val ∧ point.val ≤ 90) ∨ (97 ≤ point.val ∧ point.val ≤ 122) ∨ point.val = 95 := by
  have underscore : point = CodePoint.ofChar '_' ↔ point.val = 95 := Fin.ext_iff
  simp [isFirst, underscore, or_assoc]

theorem isLater_iff (point : CodePoint) :
    isLater point = true ↔
      (65 ≤ point.val ∧ point.val ≤ 90) ∨ (97 ≤ point.val ∧ point.val ≤ 122) ∨
        (48 ≤ point.val ∧ point.val ≤ 57) ∨ point.val = 95 := by
  have underscore : point = CodePoint.ofChar '_' ↔ point.val = 95 := Fin.ext_iff
  simp [isLater, underscore, or_assoc]

theorem isLater_of_isFirst (point : CodePoint) (first : isFirst point = true) :
    isLater point = true := by
  rw [isFirst_iff] at first
  rw [isLater_iff]
  omega

theorem isLater_of_isPlain (name : Text) (plain : isPlain name = true) :
    ∀ point ∈ name, isLater point = true := by
  cases name with
  | nil => simp
  | cons first rest =>
      simp only [isPlain, Bool.and_eq_true, List.all_eq_true] at plain
      intro point member
      rcases List.mem_cons.mp member with rfl | member
      · exact isLater_of_isFirst _ plain.1
      · exact plain.2 point member

theorem not_mem_of_isPlain (name : Text) (plain : isPlain name = true) (point : CodePoint)
    (other : isLater point = false) : point ∉ name := by
  intro member
  rw [isLater_of_isPlain name plain point member] at other
  cases other

theorem isIdentifierText_iff (name : Text) :
    isIdentifierText name = true ↔
      isPlain name = true ∨ ∃ core, isPlain core = true ∧ name = core ++ [CodePoint.lineFeed] := by
  cases name with
  | nil => simp [isIdentifierText, isPlain]
  | cons first rest =>
      simp only [isIdentifierText, Bool.and_eq_true]
      constructor
      · rintro ⟨isFirstPoint, later⟩
        by_cases ends : rest.getLast? = some CodePoint.lineFeed
        · rw [if_pos ends] at later
          obtain ⟨body, rfl⟩ := List.getLast?_eq_some_iff.mp ends
          rw [List.dropLast_concat] at later
          exact Or.inr ⟨first :: body, by simp [isPlain, isFirstPoint, later], rfl⟩
        · rw [if_neg ends] at later
          exact Or.inl (by simp [isPlain, isFirstPoint, later])
      · rintro (plain | ⟨core, plain, split⟩)
        · simp only [isPlain, Bool.and_eq_true] at plain
          refine ⟨plain.1, ?_⟩
          have noFeed : rest.getLast? ≠ some CodePoint.lineFeed := by
            intro ends
            have later := List.all_eq_true.mp plain.2 _ (List.mem_of_getLast? ends)
            exact absurd later (by decide)
          rw [if_neg noFeed]
          exact plain.2
        · cases core with
          | nil => simp [isPlain] at plain
          | cons head body =>
              obtain ⟨rfl, rfl⟩ := List.cons.inj split
              simp only [isPlain, Bool.and_eq_true] at plain
              exact ⟨plain.1, by simpa using plain.2⟩

/-- The code points of an identifier are later ones, or the line feed at its end. -/
theorem mem_isIdentifierText (name : Text) (identifier : isIdentifierText name = true) :
    ∀ point ∈ name, isLater point = true ∨ point = CodePoint.lineFeed := by
  intro point member
  rcases (isIdentifierText_iff name).mp identifier with plain | ⟨core, plain, rfl⟩
  · exact Or.inl (isLater_of_isPlain name plain point member)
  · rcases List.mem_append.mp member with member | member
    · exact Or.inl (isLater_of_isPlain core plain point member)
    · exact Or.inr (List.mem_singleton.mp member)

theorem isAscii_of_isLater (name : Text) (later : ∀ point ∈ name, isLater point = true) :
    name.IsAscii := by
  intro point member
  have bounds := (isLater_iff point).mp (later point member)
  omega

theorem isAscii_of_isIdentifierText (name : Text) (identifier : isIdentifierText name = true) :
    name.IsAscii := by
  intro point member
  rcases mem_isIdentifierText name identifier point member with later | rfl
  · have bounds := (isLater_iff point).mp later
    omega
  · decide

theorem isUsable_iff (name : Text) :
    isUsable name = true ↔
      isIdentifierText name = true ∧ name.toAsciiLower ∉ databaseWords ∧
        name.toAsciiLower.startsWith "sqlite_" = false := by
  simp [isUsable, and_assoc]

/-- A name in small letters is looked up as it is. -/
theorem isUsable_of_lower (name : Text) (lower : name.toAsciiLower = name)
    (identifier : isIdentifierText name = true) (free : name ∉ databaseWords)
    (own : name.startsWith "sqlite_" = false) : isUsable name = true := by
  rw [isUsable_iff, lower]
  exact ⟨identifier, free, own⟩

theorem isIdentifierText_of_isUsable (name : Text) (usable : isUsable name = true) :
    isIdentifierText name = true :=
  ((isUsable_iff name).mp usable).1

theorem isAscii_of_isUsable (name : Text) (usable : isUsable name = true) : name.IsAscii :=
  isAscii_of_isIdentifierText name (isIdentifierText_of_isUsable name usable)

theorem ne_nil_of_isUsable (name : Text) (usable : isUsable name = true) : name ≠ [] := by
  rintro rfl
  exact absurd usable (by decide)

theorem markWords_ne_nil (inWord : Bool) (name : Text) (inhabited : name ≠ []) :
    markWords inWord name ≠ [] := by
  fun_cases markWords inWord name <;> simp_all

theorem mem_markWords (inWord : Bool) (name : Text) :
    ∀ point ∈ markWords inWord name, point ∈ name ∨ point = 0x5F := by
  fun_induction markWords inWord name <;> grind

theorem markCapitals_ne_nil (name : Text) (inhabited : name ≠ []) : markCapitals name ≠ [] := by
  fun_cases markCapitals name <;> simp_all

theorem mem_markCapitals (name : Text) :
    ∀ point ∈ markCapitals name, point ∈ name ∨ point = 0x5F := by
  fun_induction markCapitals name <;> grind

theorem mergeUnderscores_ne_nil (name : Text) (inhabited : name ≠ []) :
    mergeUnderscores name ≠ [] := by
  fun_induction mergeUnderscores name <;> simp_all

theorem mem_mergeUnderscores (name : Text) :
    ∀ point ∈ mergeUnderscores name, point ∈ name := by
  fun_induction mergeUnderscores name <;> grind

/-- Before capitals are made small, the words of an ASCII name are marked in ASCII. -/
theorem isAscii_markCapitals_markWords (name : Text) (ascii : name.IsAscii) :
    (markCapitals (markWords false name)).IsAscii := by
  intro point member
  rcases mem_markCapitals _ point member with member | rfl
  · rcases mem_markWords _ _ point member with member | rfl
    · exact ascii point member
    · decide
  · decide

theorem snakeCase_ascii (name : Text) (ascii : name.IsAscii) :
    snakeCase name = mergeUnderscores (markCapitals (markWords false name)).toAsciiLower := by
  rw [snakeCase, Text.lower_ascii _ (isAscii_markCapitals_markWords name ascii)]

theorem snakeCase_ne_nil (name : Text) (ascii : name.IsAscii) (inhabited : name ≠ []) :
    snakeCase name ≠ [] := by
  rw [snakeCase_ascii name ascii]
  apply mergeUnderscores_ne_nil
  have marked := markCapitals_ne_nil _ (markWords_ne_nil false name inhabited)
  simpa [Text.toAsciiLower] using marked

theorem attributeName_ne_nil (name : Text) (ascii : name.IsAscii) (inhabited : name ≠ []) :
    attributeName name ≠ [] := by
  have marked := snakeCase_ne_nil name ascii inhabited
  simp only [attributeName]
  split
  · exact List.append_ne_nil_of_left_ne_nil marked _
  · exact marked

theorem isPlain_append (name rest : Text) (plain : isPlain name = true)
    (later : ∀ point ∈ rest, isLater point = true) : isPlain (name ++ rest) = true := by
  cases name with
  | nil => simp [isPlain] at plain
  | cons first body =>
      simp only [isPlain, Bool.and_eq_true] at plain
      simp only [List.cons_append, isPlain, Bool.and_eq_true, List.all_append]
      exact ⟨plain.1, plain.2, List.all_eq_true.mpr later⟩

/-- No word that the database reserves begins like the name of an index. -/
theorem databaseWords_idx : ∀ word ∈ databaseWords, word.startsWith "idx_" = false := by
  rw [Text.ofString_ofList]
  intro word member
  have apart := Text.forall_mem_ofBytes
    (fun word => !word.startsWith (['i', 'd', 'x', '_'].map CodePoint.ofChar)) _ (by decide +kernel)
    word member
  simpa using apart

/-- A plain name behind `idx_` is usable. -/
theorem isUsable_idx (rest : Text) (later : ∀ point ∈ rest, isLater point = true) :
    isUsable (("idx_" : Text) ++ rest) = true := by
  have plain : isPlain (("idx_" : Text) ++ rest) = true :=
    isPlain_append "idx_" rest (by decide) later
  have lowered : Text.toAsciiLower (("idx_" : Text) ++ rest) = ("idx_" : Text) ++ rest.toAsciiLower := by
    rw [Text.toAsciiLower_append]
    rfl
  refine (isUsable_iff _).mpr ⟨(isIdentifierText_iff _).mpr (Or.inl plain), ?_, ?_⟩
  · intro member
    have apart := databaseWords_idx _ member
    have begins : Text.startsWith (("idx_" : Text) ++ rest.toAsciiLower) "idx_" = true := rfl
    rw [lowered, begins] at apart
    cases apart
  · rw [lowered]
    rfl

/-! ## Names that the database leaves free -/

theorem isUsable_login : isUsable "login" = true :=
  isUsable_of_lower _ (by decide) (by decide) (by simp [databaseWords, Text.ofString_inj])
    (by decide)

theorem isUsable_logout : isUsable "logout" = true :=
  isUsable_of_lower _ (by decide) (by decide) (by simp [databaseWords, Text.ofString_inj])
    (by decide)

theorem isUsable_time : isUsable "time" = true :=
  isUsable_of_lower _ (by decide) (by decide) (by simp [databaseWords, Text.ofString_inj])
    (by decide)

theorem isUsable_created_at : isUsable "created_at" = true :=
  isUsable_of_lower _ (by decide) (by decide) (by simp [databaseWords, Text.ofString_inj])
    (by decide)

/-!
## Class and attribute names

The class name and the attribute name of a plain name are plain, and a module reserves neither of
them.
-/

theorem toUpper_of_isLater (point : CodePoint) (later : isLater point = true) :
    ∃ upper, point.toUpper = [upper] ∧ isLater upper = true ∧ (point.val ≠ 95 → upper.val ≠ 95) ∧
      (upper.isDigit = false → isFirst upper = true) := by
  have bounds := (isLater_iff point).mp later
  obtain ⟨upper, written, value⟩ := CodePoint.toUpper_ascii point (by omega)
  have upperLater : isLater upper = true := by
    rw [isLater_iff, value]
    split <;> omega
  refine ⟨upper, written, upperLater, by rw [value]; split <;> omega, ?_⟩
  intro noDigit
  have apart : ¬(48 ≤ upper.val ∧ upper.val ≤ 57) := by
    intro range
    have digit : upper.isDigit = true := by
      simp only [CodePoint.isDigit, CodePoint.inRanges, CodePoint.digitRanges, List.any_cons,
        Bool.or_eq_true, Bool.and_eq_true, decide_eq_true_eq]
      exact Or.inl ⟨range.1, range.2⟩
    rw [digit] at noDigit
    cases noDigit
  have upperBounds := (isLater_iff upper).mp upperLater
  rw [isFirst_iff]
  omega

theorem mem_capitalize (part : Text)
    (later : ∀ point ∈ part, isLater point = true ∧ point.val ≠ 95) :
    ∀ point ∈ capitalize part, isLater point = true ∧ point.val ≠ 95 := by
  cases part with
  | nil => simp [capitalize]
  | cons first rest =>
      obtain ⟨upper, written, upperLater, apart, _⟩ := toUpper_of_isLater first (later first (by simp)).1
      intro point member
      rw [capitalize, written] at member
      rcases List.mem_cons.mp member with rfl | member
      · exact ⟨upperLater, apart (later first (by simp)).2⟩
      · exact later point (List.mem_cons_of_mem _ member)

/-- A capitalized part begins with a letter unless it begins with a digit. -/
theorem isFirst_of_capitalize (part : Text) (inhabited : part ≠ [])
    (later : ∀ point ∈ part, isLater point = true ∧ point.val ≠ 95) :
    ∃ first rest, capitalize part = first :: rest ∧
      (first.isDigit = false → isFirst first = true) := by
  cases part with
  | nil => exact absurd rfl inhabited
  | cons first rest =>
      obtain ⟨upper, written, _, _, begins⟩ := toUpper_of_isLater first (later first (by simp)).1
      exact ⟨upper, rest, by rw [capitalize, written]; rfl, begins⟩

/-- A name in camel case is plain if the name is. -/
theorem isPlain_camelCase (name : Text) (plain : isPlain name = true) :
    isPlain (camelCase name) = true := by
  have later := isLater_of_isPlain name plain
  have parts : ∀ part ∈ (name.splitAt '_').filter fun part => !part.isEmpty,
      part ≠ [] ∧ ∀ point ∈ part, isLater point = true ∧ point.val ≠ 95 := by
    intro part member
    obtain ⟨split, inhabited⟩ := List.mem_filter.mp member
    refine ⟨by simpa using inhabited, ?_⟩
    intro point inside
    obtain ⟨own, apart⟩ := Text.mem_splitAt '_' name part split point inside
    refine ⟨later point own, ?_⟩
    intro same
    exact apart (Fin.ext same)
  have joined : ∀ point ∈ (((name.splitAt '_').filter fun part => !part.isEmpty).map
      capitalize).flatten, isLater point = true := by
    intro point member
    obtain ⟨piece, pieceMember, inside⟩ := List.mem_flatten.mp member
    obtain ⟨part, partMember, rfl⟩ := List.mem_map.mp pieceMember
    exact (mem_capitalize part (parts part partMember).2 point inside).1
  unfold camelCase
  generalize (name.splitAt '_').filter (fun part => !part.isEmpty) = pieces at parts joined ⊢
  cases pieces with
  | nil => decide
  | cons part pieces =>
      obtain ⟨inhabited, partLater⟩ := parts part (by simp)
      obtain ⟨first, rest, written, begins⟩ := isFirst_of_capitalize part inhabited partLater
      have whole : ((part :: pieces).map capitalize).flatten =
          first :: (rest ++ (pieces.map capitalize).flatten) := by
        rw [List.map_cons, List.flatten_cons, written, List.cons_append]
      rw [whole] at joined
      simp only [whole]
      split
      · exact isPlain_append "_" _ (by decide) joined
      · rename_i noDigit
        simp only [isPlain, Bool.and_eq_true, List.all_eq_true]
        exact ⟨begins (by simpa using noDigit), fun point member => joined point (by simp [member])⟩

/-- A line feed behind a name stays behind its parts. -/
theorem camelCase_concat (name : Text) (plain : isPlain name = true) :
    ∃ front, (front = [] ∨ isPlain front = true) ∧
      camelCase (name ++ [CodePoint.lineFeed]) = front ++ [CodePoint.lineFeed] := by
  have whole := isPlain_camelCase name plain
  obtain ⟨front, last, own, longer⟩ :=
    Text.splitAt_concat '_' CodePoint.lineFeed name (by decide)
  let parts := (front.filter fun part => !part.isEmpty) ++ if last.isEmpty then [] else [last]
  obtain ⟨joined, isJoined⟩ : ∃ joined, (parts.map capitalize).flatten = joined := ⟨_, rfl⟩
  have ownParts : ((name.splitAt '_').filter fun part => !part.isEmpty) = parts := by
    rw [own, List.filter_append]
    cases last <;> rfl
  have longerJoined : ((((name ++ [CodePoint.lineFeed]).splitAt '_').filter fun part =>
      !part.isEmpty).map capitalize).flatten = joined ++ [CodePoint.lineFeed] := by
    have upper : CodePoint.lineFeed.toUpper = [CodePoint.lineFeed] := rfl
    rw [longer, List.filter_append]
    cases last with
    | nil => simp [← isJoined, parts, capitalize, upper]
    | cons first rest => simp [← isJoined, parts, capitalize]
  simp only [camelCase, ownParts, isJoined] at whole
  simp only [camelCase, longerJoined]
  cases shape : joined with
  | nil =>
      have noDigit : CodePoint.lineFeed.isDigit = false := by decide
      exact ⟨[], .inl rfl, by simp [noDigit]⟩
  | cons first rest =>
      simp only [shape] at whole
      refine ⟨_, .inr whole, ?_⟩
      simp only [List.cons_append]
      split <;> simp

/-- What a name in camel case is made of: later points, and the line feed of the name. -/
theorem mem_camelCase (name : Text) (identifier : isIdentifierText name = true) :
    ∀ point ∈ camelCase name,
      isLater point = true ∨ (point = CodePoint.lineFeed ∧ CodePoint.lineFeed ∈ name) := by
  intro point member
  rcases (isIdentifierText_iff name).mp identifier with plain | ⟨core, plain, rfl⟩
  · exact .inl (isLater_of_isPlain _ (isPlain_camelCase name plain) point member)
  · obtain ⟨front, frontPlain, shape⟩ := camelCase_concat core plain
    rw [shape] at member
    rcases List.mem_append.mp member with own | feed
    · rcases frontPlain with rfl | frontPlain
      · simp at own
      · exact .inl (isLater_of_isPlain front frontPlain point own)
    · exact .inr ⟨List.mem_singleton.mp feed, by simp⟩

theorem isPlain_of_head (text : Text) (later : ∀ point ∈ text, isLater point = true)
    (head : ∃ first rest, text = first :: rest ∧ isFirst first = true) : isPlain text = true := by
  obtain ⟨first, rest, rfl, begins⟩ := head
  simp only [isPlain, Bool.and_eq_true, List.all_eq_true]
  exact ⟨begins, fun point member => later point (by simp [member])⟩

theorem isLater_toAsciiLower (point : CodePoint) (later : isLater point = true) :
    isLater point.toAsciiLower = true := by
  have bounds := (isLater_iff point).mp later
  rw [isLater_iff, CodePoint.toAsciiLower_val]
  split <;> omega

theorem isFirst_toAsciiLower (point : CodePoint) (first : isFirst point = true) :
    isFirst point.toAsciiLower = true := by
  have bounds := (isFirst_iff point).mp first
  rw [isFirst_iff, CodePoint.toAsciiLower_val]
  split <;> omega

/-- Marking words and capitals keeps the first code point. -/
theorem head?_markWords (inWord : Bool) (name : Text) :
    (markWords inWord name).head? = name.head? := by
  fun_cases markWords inWord name <;> simp_all

theorem head?_markCapitals (name : Text) : (markCapitals name).head? = name.head? := by
  fun_cases markCapitals name <;> simp_all

theorem head?_mergeUnderscores (name : Text) : (mergeUnderscores name).head? = name.head? := by
  fun_induction mergeUnderscores name with
  | case3 point next rest both ih =>
      simp only [Bool.and_eq_true, decide_eq_true_eq] at both
      rw [ih, List.head?_cons, List.head?_cons, Fin.ext (both.1.trans both.2.symm)]
  | _ => simp

/-- What an ASCII name in snake case is made of. -/
theorem mem_snakeCase (name : Text) (ascii : name.IsAscii) :
    ∀ point ∈ snakeCase name, point = CodePoint.ofChar '_' ∨
      ∃ source ∈ name, point = source.toAsciiLower := by
  rw [snakeCase_ascii name ascii]
  intro point member
  obtain ⟨source, marked, rfl⟩ := List.mem_map.mp (mem_mergeUnderscores _ point member)
  rcases mem_markCapitals _ source marked with marked | rfl
  · rcases mem_markWords _ _ source marked with own | rfl
    · exact .inr ⟨source, own, rfl⟩
    · exact .inl rfl
  · exact .inl rfl

/-- A name in snake case is plain if the name is. -/
theorem isPlain_snakeCase (name : Text) (plain : isPlain name = true) :
    isPlain (snakeCase name) = true := by
  have later := isLater_of_isPlain name plain
  have ascii := isAscii_of_isLater name later
  apply isPlain_of_head
  · intro point member
    rcases mem_snakeCase name ascii point member with rfl | ⟨source, own, rfl⟩
    · decide
    · exact isLater_toAsciiLower source (later source own)
  · rw [snakeCase_ascii name ascii]
    cases name with
    | nil => simp [isPlain] at plain
    | cons first rest =>
        simp only [isPlain, Bool.and_eq_true] at plain
        have head : (mergeUnderscores (Text.toAsciiLower
            (markCapitals (markWords false (first :: rest))))).head? = some first.toAsciiLower := by
          rw [head?_mergeUnderscores, Text.toAsciiLower, List.head?_map, head?_markCapitals,
            head?_markWords]
          rfl
        obtain ⟨others, shape⟩ := List.head?_eq_some_iff.mp head
        exact ⟨_, others, shape, isFirst_toAsciiLower first plain.1⟩

/-- What an attribute is made of: later points, and the line feed of the name. -/
theorem mem_attributeName (name : Text) (identifier : isIdentifierText name = true) :
    ∀ point ∈ attributeName name,
      isLater point = true ∨ (point = CodePoint.lineFeed ∧ CodePoint.lineFeed ∈ name) := by
  have snake : ∀ point ∈ snakeCase name,
      isLater point = true ∨ (point = CodePoint.lineFeed ∧ CodePoint.lineFeed ∈ name) := by
    intro point member
    rcases mem_snakeCase name (isAscii_of_isIdentifierText name identifier) point member with
      rfl | ⟨source, own, rfl⟩
    · exact .inl (by decide)
    · rcases mem_isIdentifierText name identifier source own with later | rfl
      · exact .inl (isLater_toAsciiLower source later)
      · exact .inr ⟨by decide, own⟩
  intro point member
  unfold attributeName at member
  dsimp only at member
  split at member
  · rcases List.mem_append.mp member with own | under
    · exact snake point own
    · rw [List.mem_singleton.mp under]
      exact .inl (by decide)
  · exact snake point member

/-- No word that a module reserves ends with an underscore or like the name of a class. -/
theorem moduleWords_end : ∀ word ∈ moduleWords,
    word.endsWith "_" = false ∧ word.endsWith "Event" = false := by
  rw [Text.ofString_ofList, Text.ofString_ofList]
  intro word member
  have apart := Text.forall_mem_ofBytes (fun word => !word.endsWith (['_'].map CodePoint.ofChar) &&
    !word.endsWith (['E', 'v', 'e', 'n', 't'].map CodePoint.ofChar)) _ (by decide +kernel) word member
  simpa using apart

/-- No word that a module reserves holds an underscore. -/
theorem not_mem_moduleWords_of_mem (name : Text) (member : CodePoint.ofChar '_' ∈ name) :
    name ∉ moduleWords := by
  intro reserved
  have apart := Text.forall_mem_ofBytes (fun word => !word.contains (CodePoint.ofChar '_')) _
    (by decide +kernel) name reserved
  simp [member] at apart

theorem not_mem_moduleWords (front back : Text) (ends : back = "_" ∨ back = "Event") :
    front ++ back ∉ moduleWords := by
  intro member
  have apart := moduleWords_end _ member
  have ending : ∀ back : Text, Text.endsWith (front ++ back) back = true := by
    intro back
    rw [Text.endsWith, List.isSuffixOf_iff_suffix]
    exact List.suffix_append front back
  rcases ends with rfl | rfl
  · rw [ending] at apart
    exact absurd apart.1 (by decide)
  · rw [ending] at apart
    exact absurd apart.2 (by decide)

theorem attributeName_not_mem (name : Text) : attributeName name ∉ moduleWords := by
  unfold attributeName
  dsimp only
  split
  · exact not_mem_moduleWords _ "_" (Or.inl rfl)
  · rename_i free
    simp only [Bool.or_eq_true, List.contains_iff_mem, not_or] at free
    exact free.1

/-- The attribute of a plain name is plain. -/
theorem isPlain_attributeName (name : Text) (plain : isPlain name = true) :
    isPlain (attributeName name) = true := by
  have snake := isPlain_snakeCase name plain
  unfold attributeName
  dsimp only
  split
  · apply isPlain_append _ "_" snake
    intro point member
    rw [List.mem_singleton.mp member]
    decide
  · exact snake

end EventForge.Identifier
