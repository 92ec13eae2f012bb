import EventForge.Proofs.Script.OutlineStep

/-!
# Runs of an outline

The steps of an outline are taken one after another.  A script on which its outline ends broken has
a broken token, so that it is refused before anything runs.
-/

namespace EventForge.ScriptToken

theorem isBody_nil (long : Bool) : IsBody long [] := by
  intro rest
  simp

theorem isBody_append (long : Bool) (first second : Text) (isFirst : IsBody long first)
    (isSecond : IsBody long second) : IsBody long (first ++ second) := by
  intro rest
  rw [List.append_assoc, isFirst, isSecond, Option.map_map]
  congr 1
  funext found
  simp

theorem stringBody?_cons (quote : CodePoint) (long : Bool) (point : CodePoint) (rest : Text)
    (noSlash : point ≠ '\\') :
    stringBody? quote long (point :: rest) =
      if point = quote && !long then some ([], rest)
      else if point = quote && Text.startsWith rest [quote, quote] then some ([], rest.drop 2)
      else if point.val = 0x0A && !long then none
      else (stringBody? quote long rest).map fun found => (point :: found.1, found.2) := by
  rw [stringBody?.eq_def]
  simp only [if_neg noSlash]

theorem isBody_point (long : Bool) (point : CodePoint) (noSlash : point ≠ '\\')
    (noQuote : point ≠ '"') (noFeed : long = true ∨ point.val ≠ 0x0A) : IsBody long [point] := by
  intro rest
  rw [List.singleton_append, stringBody?_cons _ _ _ _ noSlash, if_neg (by simp [noQuote]),
    if_neg (by simp [noQuote]), if_neg (by rcases noFeed with rfl | other <;> simp [*])]
  rfl

/-- Points that neither begin an escape nor end the string are read on their own. -/
theorem isBody_of_points (long : Bool) (text : Text)
    (each : ∀ point ∈ text, point ≠ '\\' ∧ point ≠ '"' ∧ (long = true ∨ point.val ≠ 0x0A)) :
    IsBody long text := by
  induction text with
  | nil => exact isBody_nil long
  | cons point text ih =>
      obtain ⟨noSlash, noQuote, noFeed⟩ := each point (by simp)
      exact isBody_append long [point] text (isBody_point long point noSlash noQuote noFeed)
        (ih fun other member => each other (by simp [member]))

theorem isBody_escape (long : Bool) (escaped : CodePoint) :
    IsBody long [CodePoint.ofChar '\\', escaped] := by
  intro rest
  rfl

theorem isBody_longQuote (point : CodePoint) (noSlash : point ≠ '\\') (noQuote : point ≠ '"') :
    IsBody true [CodePoint.ofChar '"', point] := by
  intro rest
  have noSlashHere : ¬CodePoint.ofChar '"' = CodePoint.ofChar '\\' := by decide
  have short : Text.startsWith (point :: rest) [CodePoint.ofChar '"', CodePoint.ofChar '"'] =
      false := by
    simp [Text.startsWith, List.isPrefixOf, Ne.symm noQuote]
  have behind := isBody_point true point noSlash noQuote (.inl rfl) rest
  rw [List.singleton_append] at behind
  change stringBody? '"' true (CodePoint.ofChar '"' :: point :: rest) = _
  rw [stringBody?_cons _ _ _ _ noSlashHere, if_neg (by simp), if_neg (by simp [short]),
    if_neg (by simp), behind, Option.map_map]
  rfl

theorem isBody_longQuotes (point : CodePoint) (noSlash : point ≠ '\\') (noQuote : point ≠ '"') :
    IsBody true [CodePoint.ofChar '"', CodePoint.ofChar '"', point] := by
  intro rest
  have noSlashHere : ¬CodePoint.ofChar '"' = CodePoint.ofChar '\\' := by decide
  have short : Text.startsWith (CodePoint.ofChar '"' :: point :: rest)
      [CodePoint.ofChar '"', CodePoint.ofChar '"'] = false := by
    simp [Text.startsWith, List.isPrefixOf, Ne.symm noQuote]
  have behind := isBody_longQuote point noSlash noQuote rest
  change stringBody? '"' true (CodePoint.ofChar '"' :: point :: rest) = _ at behind
  change stringBody? '"' true (CodePoint.ofChar '"' :: CodePoint.ofChar '"' :: point :: rest) = _
  rw [stringBody?_cons _ _ _ _ noSlashHere, if_neg (by simp), if_neg (by simp [short]),
    if_neg (by simp), behind, Option.map_map]
  rfl

/-- A short string ends at the quote behind its body. -/
theorem stringBody?_short (part rest : Text) (body : IsBody false part) :
    stringBody? '"' false (part ++ CodePoint.ofChar '"' :: rest) = some (part, rest) := by
  have ends : stringBody? '"' false (CodePoint.ofChar '"' :: rest) = some ([], rest) := by
    rw [stringBody?_cons _ _ _ _ (by decide), if_pos (by simp)]
  rw [body (CodePoint.ofChar '"' :: rest), ends]
  simp

/-- A string with an end is one token, behind as many lines as it holds. -/
theorem cut_of_stringBody? (place : Place) (rest inner body behind : Text)
    (isInner : (if Text.startsWith rest [CodePoint.ofChar '"', CodePoint.ofChar '"'] then rest.drop 2
      else rest) = inner)
    (ends : stringBody? '"' (Text.startsWith rest [CodePoint.ofChar '"', CodePoint.ofChar '"']) inner =
      some (body, behind)) :
    cut place '"' rest = .ok (mark place (.string [] body),
      { place with line := place.line + body.countP fun point => point.val = 0x0A }, behind) := by
  change cutString place [] '"' rest = _
  simp only [cutString, isInner, ends]

section Strings

variable {outline : Outline}

/-- A string with an end leaves breaking to the rest. -/
theorem breaks_of_stringBody? (rest inner body behind : Text)
    (isInner : (if Text.startsWith rest [CodePoint.ofChar '"', CodePoint.ofChar '"'] then rest.drop 2
      else rest) = inner)
    (ends : stringBody? '"' (Text.startsWith rest [CodePoint.ofChar '"', CodePoint.ofChar '"']) inner =
      some (body, behind))
    (room : behind.length ≤ rest.length)
    (breaks : BreaksInside outline behind) :
    BreaksInside outline (CodePoint.ofChar '"' :: rest) := by
  apply breaks_of_cut _ rest isCutting_quote
  intro place fits
  have cuts := cut_of_stringBody? place rest inner body behind isInner ends
  exact .inr ⟨_, _, behind, cuts, fun fuel enough =>
    breaks _ (fits_line fits _) fuel (by omega)⟩

theorem breaks_emptyString (point : CodePoint) (rest : Text) (noQuote : point ≠ '"')
    (breaks : BreaksInside outline (point :: rest)) :
    BreaksInside outline (CodePoint.ofChar '"' :: CodePoint.ofChar '"' :: point :: rest) := by
  have short : Text.startsWith (CodePoint.ofChar '"' :: point :: rest)
      [CodePoint.ofChar '"', CodePoint.ofChar '"'] = false := by
    simp [Text.startsWith, List.isPrefixOf, Ne.symm noQuote]
  refine breaks_of_stringBody? _ (CodePoint.ofChar '"' :: point :: rest) [] (point :: rest) ?_ ?_
    (by simp) breaks
  · rw [short]
    rfl
  · rw [short]
    rfl

theorem breaks_short (first : CodePoint) (part rest : Text) (noQuote : first ≠ '"')
    (body : IsBody false (first :: part)) (breaks : BreaksInside outline rest) :
    BreaksInside outline (CodePoint.ofChar '"' ::
      (first :: part ++ CodePoint.ofChar '"' :: rest)) := by
  have short : Text.startsWith (first :: part ++ CodePoint.ofChar '"' :: rest)
      [CodePoint.ofChar '"', CodePoint.ofChar '"'] = false := by
    simp [Text.startsWith, List.isPrefixOf, Ne.symm noQuote]
  refine breaks_of_stringBody? _ (first :: part ++ CodePoint.ofChar '"' :: rest) (first :: part) rest
    ?_ ?_ (by simp; omega) breaks
  · rw [short]
    rfl
  · rw [short]
    exact stringBody?_short (first :: part) rest body

theorem breaks_long (part rest : Text) (body : IsBody true part)
    (breaks : BreaksInside outline rest) :
    BreaksInside outline (CodePoint.ofChar '"' :: CodePoint.ofChar '"' :: CodePoint.ofChar '"' ::
      (part ++ CodePoint.ofChar '"' :: CodePoint.ofChar '"' :: CodePoint.ofChar '"' :: rest)) := by
  refine breaks_of_stringBody? _ (part ++ CodePoint.ofChar '"' :: CodePoint.ofChar '"' ::
    CodePoint.ofChar '"' :: rest) part rest rfl ?_ (by simp; omega) breaks
  have long : Text.startsWith (CodePoint.ofChar '"' :: CodePoint.ofChar '"' :: (part ++
      CodePoint.ofChar '"' :: CodePoint.ofChar '"' :: CodePoint.ofChar '"' :: rest))
      [CodePoint.ofChar '"', CodePoint.ofChar '"'] = true := by
    simp [Text.startsWith, List.isPrefixOf]
  have ends : stringBody? '"' true (CodePoint.ofChar '"' :: CodePoint.ofChar '"' ::
      CodePoint.ofChar '"' :: rest) = some ([], rest) := by
    rw [stringBody?_cons _ _ _ _ (by decide), if_neg (by simp),
      if_pos (by simp [Text.startsWith, List.isPrefixOf])]
    rfl
  rw [long, body, ends]
  simp

end Strings

section Lines

variable {outline : Outline}

theorem indentation_replicate (columns column narrow : Nat) (point : CodePoint) (rest : Text)
    (noBlank : point ≠ ' ') (noTab : point.val ≠ 0x09) (noPage : point.val ≠ 0x0C) :
    indentation column narrow (List.replicate columns (CodePoint.ofChar ' ') ++ point :: rest) =
      ((column + columns, narrow + columns), point :: rest) := by
  induction columns generalizing column narrow with
  | zero => simp [indentation, noBlank, noTab, noPage]
  | succ columns ih =>
      rw [List.replicate_succ, List.cons_append, indentation, if_pos rfl, ih]
      simp only [Prod.mk.injEq, and_true]
      omega

theorem scan_opening (fuel columns : Nat) (place : Place) (point : CodePoint) (rest : Text)
    (noBlank : point ≠ ' ') (noTab : point.val ≠ 0x09) (noPage : point.val ≠ 0x0C)
    (noSlash : point ≠ '\\') :
    scan (fuel + 1) place .first
        (List.replicate columns (CodePoint.ofChar ' ') ++ point :: rest) =
      if !place.brackets.isEmpty then scan fuel place .inside (point :: rest)
      else if point = '#' || point.val = 0x0A then
        scan fuel { place with line := place.line + 1 } .first
          (((point :: rest).dropWhile fun next => next.val ≠ 0x0A).drop 1)
      else
        match blockTokens place (columns, columns) with
        | .error error => [broken place error false]
        | .ok (kinds, blocks) =>
            kinds.map (mark { place with blocks }) ++
              scan fuel { place with blocks } .inside (point :: rest) := by
  have noEscape : ¬(point :: rest).head? = some '\\' := by
    intro same
    exact noSlash (Option.some.inj same)
  rw [LinePlace.first, scan]
  simp only [indentation_replicate columns 0 0 point rest noBlank noTab noPage, Nat.zero_add]
  rw [if_neg (by simp), if_neg noEscape]
  rfl

/-- A line fits an open block of the text where it fits one of the outline. -/
theorem blockTokens_cases (place : Place) (fits : Fits place outline) (column : Nat) :
    (∃ error, blockTokens place (column, column) = .error error) ∨
      ∃ kinds blocks, Outline.blocksAt column outline.blocks = some blocks ∧
        blockTokens place (column, column) =
          .ok (kinds, blocks.map fun column => (column, column)) := by
  rw [blockTokens, fits.blocks]
  cases outline.blocks with
  | nil => exact .inr ⟨[], [column], rfl, rfl⟩
  | cons top blocks =>
      rw [Outline.blocksAt]
      simp only [List.map_cons]
      by_cases same : column = top
      · rw [if_pos same, if_pos same, if_pos same]
        exact .inr ⟨[], top :: blocks, rfl, rfl⟩
      · rw [if_neg same, if_neg same]
        by_cases deeper : top < column
        · rw [if_pos deeper, if_pos deeper, if_neg (by omega)]
          split
          · exact .inl ⟨_, rfl⟩
          · exact .inr ⟨_, column :: top :: blocks, rfl, rfl⟩
        · rw [if_neg deeper, if_neg deeper, ← List.map_cons (f := fun column => (column, column)),
            List.dropWhile_map]
          have same : (fun block : Nat × Nat => decide (column < block.1)) ∘
              (fun column : Nat => (column, column)) = fun block => decide (column < block) := rfl
          rw [same]
          cases (top :: blocks).dropWhile fun block => decide (column < block) with
          | nil => exact .inr ⟨[], [column], rfl, rfl⟩
          | cons block kept =>
              simp only [List.map_cons]
              by_cases fit : block = column
              · rw [if_neg (by simp [fit]), if_neg (by simp [fit]), if_pos fit]
                exact .inr ⟨_, block :: kept, rfl, rfl⟩
              · rw [if_pos fit]
                exact .inl ⟨_, rfl⟩

/-- Tokens break on the beginning of a line if they break on what follows the change of blocks. -/
theorem breaks_blocks (columns : Nat) (point : CodePoint) (rest : Text)
    (outside : outline.brackets = []) (noBlank : point ≠ ' ') (noTab : point.val ≠ 0x09)
    (noPage : point.val ≠ 0x0C) (noSlash : point ≠ '\\') (noComment : point ≠ '#')
    (noFeed : point.val ≠ 0x0A)
    (breaks : ∀ blocks, Outline.blocksAt columns outline.blocks = some blocks →
      BreaksInside { outline with blocks } (point :: rest)) :
    BreaksOpening outline
      (List.replicate columns (CodePoint.ofChar ' ') ++ point :: rest) := by
  intro place fits fuel enough
  obtain ⟨fuel, rfl⟩ : ∃ more, fuel = more + 1 := ⟨fuel - 1, by omega⟩
  have noBrackets : place.brackets = [] := by
    rw [← List.map_eq_nil_iff (f := Prod.fst), fits.brackets, outside]
  rw [scan_opening fuel columns place point rest noBlank noTab noPage noSlash,
    if_neg (by simp [noBrackets]), if_neg (by simp [noComment, noFeed])]
  rcases blockTokens_cases place fits columns with ⟨error, found⟩ | ⟨kinds, blocks, isOpen, found⟩
  · rw [found]
    rfl
  · rw [found]
    apply any_append_isBroken
    let next := { place with blocks := blocks.map fun column => (column, column) }
    refine breaks blocks isOpen next ⟨fits.brackets, rfl⟩ fuel ?_
    simp only [List.length_append, List.length_replicate] at enough
    omega

/-- A line between brackets opens no block. -/
theorem breaks_bracketed (columns : Nat) (point : CodePoint) (rest : Text)
    (within : outline.brackets ≠ []) (noBlank : point ≠ ' ') (noTab : point.val ≠ 0x09)
    (noPage : point.val ≠ 0x0C) (noSlash : point ≠ '\\')
    (breaks : BreaksInside outline (point :: rest)) :
    BreaksOpening outline
      (List.replicate columns (CodePoint.ofChar ' ') ++ point :: rest) := by
  intro place fits fuel enough
  obtain ⟨fuel, rfl⟩ : ∃ more, fuel = more + 1 := ⟨fuel - 1, by omega⟩
  have brackets : place.brackets ≠ [] := by
    intro noBrackets
    apply within
    rw [← fits.brackets, noBrackets]
    rfl
  rw [scan_opening fuel columns place point rest noBlank noTab noPage noSlash,
    if_pos (by simpa using brackets)]
  refine breaks place fits fuel ?_
  simp only [List.length_append, List.length_replicate] at enough
  omega

/-- A line that is empty, or holds a comment only, is passed as a whole. -/
theorem breaks_emptyLine (columns : Nat) (part : Text) (point : CodePoint) (rest : Text)
    (outside : outline.brackets = []) (isRemark : part = [] ∨ part.head? = some (CodePoint.ofChar '#'))
    (whole : ∀ other ∈ part, other.val ≠ 0x0A) (feed : point.val = 0x0A)
    (breaks : BreaksOpening outline rest) :
    BreaksOpening outline
      (List.replicate columns (CodePoint.ofChar ' ') ++ (part ++ point :: rest)) := by
  intro place fits fuel enough
  obtain ⟨fuel, rfl⟩ : ∃ more, fuel = more + 1 := ⟨fuel - 1, by omega⟩
  have noBrackets : place.brackets = [] := by
    rw [← List.map_eq_nil_iff (f := Prod.fst), fits.brackets, outside]
  obtain rfl : point = 0x0A := Fin.ext feed
  have goesOn := breaks { place with line := place.line + 1 } (fits_line fits _) fuel (by
    simp only [List.length_append, List.length_cons] at enough
    omega)
  have passed : ((part ++ 0x0A :: rest).dropWhile fun next => decide (next.val ≠ 0x0A)).drop 1 =
      rest := by
    rw [List.dropWhile_append_of_pos, List.dropWhile_cons_of_neg]
    · rfl
    · decide
    · intro other member
      simpa using whole other member
  cases part with
  | nil =>
      rw [List.nil_append] at passed ⊢
      rw [scan_opening fuel columns place _ rest (by decide) (by decide) (by decide) (by decide),
        if_neg (by simp [noBrackets]), if_pos (by decide), passed]
      exact goesOn
  | cons first part =>
      obtain rfl : first = CodePoint.ofChar '#' := by simpa using isRemark
      rw [List.cons_append] at passed ⊢
      rw [scan_opening fuel columns place _ _ (by decide) (by decide) (by decide) (by decide),
        if_neg (by simp [noBrackets]), if_pos (by decide), passed]
      exact goesOn

end Lines

section Steps

variable {outline : Outline}

/-- What an outline is in the middle of does not matter between two tokens. -/
theorem BreaksInside.turned {text : Text} {mode : OutlineMode}
    (breaks : BreaksInside { outline with mode } text) : BreaksInside outline text :=
  fun place fits => breaks place ⟨fits.brackets, fits.blocks⟩

theorem BreaksOpening.turned {text : Text} {mode : OutlineMode}
    (breaks : BreaksOpening { outline with mode } text) : BreaksOpening outline text :=
  fun place fits => breaks place ⟨fits.brackets, fits.blocks⟩

theorem breaks_between (point : CodePoint) (rest : Text) (next : Outline)
    (found : outline.between point = some next) (breaks : Breaks next rest) :
    BreaksInside outline (point :: rest) := by
  rw [Outline.between] at found
  by_cases blank : point = CodePoint.ofChar ' '
  · rw [if_pos blank] at found
    cases found
    rw [blank]
    exact breaks_blank (BreaksInside.turned breaks)
  rw [if_neg blank] at found
  by_cases feed : point.val = 0x0A
  · rw [if_pos feed] at found
    cases found
    exact breaks_feed point feed (BreaksOpening.turned breaks)
  rw [if_neg feed] at found
  by_cases comment : point = CodePoint.ofChar '#'
  · rw [if_pos comment] at found
    cases found
    rw [comment]
    exact BreaksInside.turned (breaks [] (by simp))
  rw [if_neg comment] at found
  by_cases quote : point = CodePoint.ofChar '"'
  · rw [if_pos quote] at found
    cases found
    rw [quote]
    exact BreaksInside.turned breaks
  rw [if_neg quote] at found
  by_cases begins : beginsWord point = true
  · rw [if_pos begins] at found
    cases found
    exact BreaksInside.turned (breaks point [] begins (by simp))
  rw [if_neg begins] at found
  by_cases digit : point.isAsciiDigit = true
  · rw [if_pos digit] at found
    cases found
    exact BreaksInside.turned (breaks point [] digit (by simp))
  rw [if_neg digit] at found
  by_cases opens : (closerOf? point).isSome = true
  · rw [if_pos opens] at found
    cases found
    exact breaks_opener point rest opens (BreaksInside.turned breaks)
  rw [if_neg opens] at found
  by_cases closes : isCloser point = true
  · rw [if_pos closes] at found
    split at found
    · cases found
    · rename_i opener brackets isOpen
      split at found
      · rename_i matching
        cases found
        exact breaks_closer point opener brackets rest (by simpa using opens) closes isOpen
          matching (BreaksInside.turned breaks)
      · cases found
  rw [if_neg closes] at found
  split at found
  · rename_i sign
    cases found
    exact BreaksInside.turned (breaks point [] sign (by simp))
  · cases found

theorem forall_mem_concat {property : CodePoint → Prop} {part : Text} {point : CodePoint}
    (whole : ∀ other ∈ part, property other) (last : property point) :
    ∀ other ∈ part ++ [point], property other := by
  intro other member
  rcases List.mem_append.mp member with member | member
  · exact whole other member
  · rw [List.mem_singleton.mp member]
    exact last

section Step

variable {brackets : List CodePoint} {blocks : List Nat} (point : CodePoint) (rest : Text)
  (next : Outline) (breaks : Breaks next rest)

include breaks

/-- A code point behind the blanks a line begins with. -/
theorem breaks_step_opening (columns : Nat)
    (found : Outline.step ⟨.opening columns, brackets, blocks⟩ point = some next) :
    Breaks ⟨.opening columns, brackets, blocks⟩ (point :: rest) := by
  simp only [Outline.step] at found
  split at found
  · rename_i blank
    cases found
    have whole : BreaksOpening ⟨.opening columns, brackets, blocks⟩ _ :=
      BreaksOpening.turned breaks
    rw [List.replicate_succ', List.append_assoc] at whole
    rw [blank]
    exact whole
  rename_i noBlank
  split at found
  · cases found
  rename_i plain
  simp only [Bool.or_eq_true, decide_eq_true_eq, not_or] at plain
  obtain ⟨⟨noTab, noPage⟩, noSlash⟩ := plain
  split at found
  · rename_i within
    exact breaks_bracketed columns point rest (by simpa using within) noBlank noTab noPage noSlash
      (breaks_between point rest next found breaks)
  rename_i outside
  obtain rfl : brackets = [] := by simpa using outside
  split at found
  · rename_i comment
    cases found
    rw [comment]
    exact BreaksOpening.turned (breaks rfl columns [] (by simp))
  rename_i noComment
  split at found
  · rename_i feed
    cases found
    exact breaks_emptyLine columns [] point rest rfl (.inl rfl) (by simp) feed
      (BreaksOpening.turned breaks)
  rename_i noFeed
  refine breaks_blocks columns point rest rfl noBlank noTab noPage noSlash noComment noFeed ?_
  intro kept isKept
  simp only [isKept] at found
  exact breaks_between point rest next found breaks

theorem breaks_step_remark
    (found : Outline.step ⟨.remark, brackets, blocks⟩ point = some next) :
    Breaks ⟨.remark, brackets, blocks⟩ (point :: rest) := by
  simp only [Outline.step] at found
  intro outside columns part whole
  split at found
  · rename_i feed
    cases found
    exact breaks_emptyLine columns (CodePoint.ofChar '#' :: part) point rest outside (.inr rfl)
      (by simpa using ⟨by decide, whole⟩) feed (BreaksOpening.turned breaks)
  · rename_i noFeed
    cases found
    have longer := breaks outside columns (part ++ [point]) (forall_mem_concat whole noFeed)
    simpa using longer

theorem breaks_step_word
    (found : Outline.step ⟨.word, brackets, blocks⟩ point = some next) :
    Breaks ⟨.word, brackets, blocks⟩ (point :: rest) := by
  simp only [Outline.step] at found
  intro first part begins whole
  split at found
  · rename_i word
    cases found
    have longer := breaks first (part ++ [point]) begins (forall_mem_concat whole word)
    simpa using longer
  rename_i ends
  split at found
  · cases found
  · rename_i noQuote
    exact breaks_word first part begins whole point rest (by simpa using ends) noQuote
      (breaks_between point rest next found breaks)

theorem breaks_step_number
    (found : Outline.step ⟨.number, brackets, blocks⟩ point = some next) :
    Breaks ⟨.number, brackets, blocks⟩ (point :: rest) := by
  simp only [Outline.step] at found
  intro first part digit whole
  split at found
  · rename_i more
    cases found
    have longer := breaks first (part ++ [point]) digit (forall_mem_concat whole more)
    simpa using longer
  split at found
  · cases found
  · rename_i ends
    simp only [Bool.or_eq_true, decide_eq_true_eq, not_or] at ends
    exact breaks_number first part digit whole point rest (by simpa using ends.1) ends.2
      (breaks_between point rest next found breaks)

theorem breaks_step_sign
    (found : Outline.step ⟨.sign, brackets, blocks⟩ point = some next) :
    Breaks ⟨.sign, brackets, blocks⟩ (point :: rest) := by
  simp only [Outline.step] at found
  intro first part sign whole
  split at found
  · rename_i more
    cases found
    have longer := breaks first (part ++ [point]) sign (forall_mem_concat whole more)
    simpa using longer
  rename_i ends
  split at found
  · cases found
  · rename_i noDigit
    exact breaks_signs first part sign whole point rest (by simpa using ends)
      (Bool.eq_false_iff.mpr noDigit) (breaks_between point rest next found breaks)

theorem breaks_step_comment
    (found : Outline.step ⟨.comment, brackets, blocks⟩ point = some next) :
    Breaks ⟨.comment, brackets, blocks⟩ (point :: rest) := by
  simp only [Outline.step] at found
  intro part whole
  split at found
  · rename_i feed
    cases found
    exact breaks_comment part whole point feed (BreaksOpening.turned breaks)
  · rename_i noFeed
    cases found
    have longer := breaks (part ++ [point]) (forall_mem_concat whole noFeed)
    simpa using longer

theorem breaks_step_quote
    (found : Outline.step ⟨.quote, brackets, blocks⟩ point = some next) :
    Breaks ⟨.quote, brackets, blocks⟩ (point :: rest) := by
  simp only [Outline.step] at found
  split at found
  · rename_i same
    cases found
    rw [same]
    exact BreaksInside.turned breaks
  rename_i noQuote
  split at found
  · rename_i slash
    cases found
    rw [slash]
    exact BreaksInside.turned (breaks [] (by simp) (isBody_nil false))
  rename_i noSlash
  split at found
  · cases found
  · rename_i noFeed
    cases found
    exact BreaksInside.turned
      (breaks point [] noQuote (isBody_point false point noSlash noQuote (.inr noFeed)))

theorem breaks_step_quotes
    (found : Outline.step ⟨.quotes, brackets, blocks⟩ point = some next) :
    Breaks ⟨.quotes, brackets, blocks⟩ (point :: rest) := by
  simp only [Outline.step] at found
  split at found
  · rename_i same
    cases found
    rw [same]
    exact BreaksInside.turned (breaks [] (isBody_nil true))
  · rename_i noQuote
    exact breaks_emptyString point rest noQuote (breaks_between point rest next found breaks)

theorem breaks_step_short
    (found : Outline.step ⟨.short, brackets, blocks⟩ point = some next) :
    Breaks ⟨.short, brackets, blocks⟩ (point :: rest) := by
  simp only [Outline.step] at found
  intro first part noQuoteFirst body
  split at found
  · rename_i same
    cases found
    rw [same]
    exact breaks_short first part rest noQuoteFirst body (BreaksInside.turned breaks)
  rename_i noQuote
  split at found
  · rename_i slash
    cases found
    rw [slash]
    exact BreaksInside.turned (breaks (first :: part) (by simpa using noQuoteFirst) body)
  rename_i noSlash
  split at found
  · cases found
  · rename_i noFeed
    cases found
    have longer := breaks first (part ++ [point]) noQuoteFirst
      (isBody_append false (first :: part) [point] body
        (isBody_point false point noSlash noQuote (.inr noFeed)))
    simpa using longer

theorem breaks_step_shortEscape
    (found : Outline.step ⟨.shortEscape, brackets, blocks⟩ point = some next) :
    Breaks ⟨.shortEscape, brackets, blocks⟩ (point :: rest) := by
  simp only [Outline.step] at found
  intro part noQuote body
  cases found
  have escaped := isBody_append false part [CodePoint.ofChar '\\', point] body
    (isBody_escape false point)
  cases part with
  | nil => exact BreaksInside.turned (breaks '\\' [point] (by decide) escaped)
  | cons first part =>
      have longer := breaks first (part ++ [CodePoint.ofChar '\\', point])
        (by simpa using noQuote) escaped
      simpa using BreaksInside.turned longer

theorem breaks_step_long
    (found : Outline.step ⟨.long, brackets, blocks⟩ point = some next) :
    Breaks ⟨.long, brackets, blocks⟩ (point :: rest) := by
  simp only [Outline.step] at found
  intro part body
  split at found
  · rename_i same
    cases found
    rw [same]
    exact BreaksInside.turned (breaks part body)
  rename_i noQuote
  split at found
  · rename_i slash
    cases found
    rw [slash]
    exact BreaksInside.turned (breaks part body)
  · rename_i noSlash
    cases found
    have longer := breaks (part ++ [point])
      (isBody_append true part [point] body (isBody_point true point noSlash noQuote (.inl rfl)))
    simpa using longer

theorem breaks_step_longEscape
    (found : Outline.step ⟨.longEscape, brackets, blocks⟩ point = some next) :
    Breaks ⟨.longEscape, brackets, blocks⟩ (point :: rest) := by
  simp only [Outline.step] at found
  intro part body
  cases found
  have longer := breaks (part ++ [CodePoint.ofChar '\\', point])
    (isBody_append true part _ body (isBody_escape true point))
  simpa using BreaksInside.turned longer

theorem breaks_step_longQuote
    (found : Outline.step ⟨.longQuote, brackets, blocks⟩ point = some next) :
    Breaks ⟨.longQuote, brackets, blocks⟩ (point :: rest) := by
  simp only [Outline.step] at found
  intro part body
  split at found
  · rename_i same
    cases found
    rw [same]
    exact BreaksInside.turned (breaks part body)
  rename_i noQuote
  split at found
  · cases found
  · rename_i noSlash
    cases found
    have longer := breaks (part ++ [CodePoint.ofChar '"', point])
      (isBody_append true part _ body (isBody_longQuote point noSlash noQuote))
    simpa using BreaksInside.turned longer

theorem breaks_step_longQuotes
    (found : Outline.step ⟨.longQuotes, brackets, blocks⟩ point = some next) :
    Breaks ⟨.longQuotes, brackets, blocks⟩ (point :: rest) := by
  simp only [Outline.step] at found
  intro part body
  split at found
  · rename_i same
    cases found
    rw [same]
    exact breaks_long part rest body (BreaksInside.turned breaks)
  rename_i noQuote
  split at found
  · cases found
  · rename_i noSlash
    cases found
    have longer := breaks (part ++ [CodePoint.ofChar '"', CodePoint.ofChar '"', point])
      (isBody_append true part _ body (isBody_longQuotes point noSlash noQuote))
    simpa using BreaksInside.turned longer

end Step

/-- A step of an outline goes on with what the outline is in the middle of, or ends it. -/
theorem breaks_step (outline : Outline) (point : CodePoint) (rest : Text) (next : Outline)
    (found : outline.step point = some next) (breaks : Breaks next rest) :
    Breaks outline (point :: rest) := by
  obtain ⟨mode, brackets, blocks⟩ := outline
  cases mode with
  | opening columns => exact breaks_step_opening point rest next breaks columns found
  | remark => exact breaks_step_remark point rest next breaks found
  | inside => exact breaks_between point rest next found breaks
  | word => exact breaks_step_word point rest next breaks found
  | number => exact breaks_step_number point rest next breaks found
  | sign => exact breaks_step_sign point rest next breaks found
  | comment => exact breaks_step_comment point rest next breaks found
  | quote => exact breaks_step_quote point rest next breaks found
  | quotes => exact breaks_step_quotes point rest next breaks found
  | short => exact breaks_step_short point rest next breaks found
  | shortEscape => exact breaks_step_shortEscape point rest next breaks found
  | long => exact breaks_step_long point rest next breaks found
  | longEscape => exact breaks_step_longEscape point rest next breaks found
  | longQuote => exact breaks_step_longQuote point rest next breaks found
  | longQuotes => exact breaks_step_longQuotes point rest next breaks found
  | broken => trivial

theorem breaks_run (outline : Outline) (text : Text) (next : Outline) (rest : Text)
    (found : outline.run text = some next) (breaks : Breaks next rest) :
    Breaks outline (text ++ rest) := by
  induction text generalizing outline with
  | nil =>
      cases found
      exact breaks
  | cons point text ih =>
      rw [Outline.run_cons] at found
      obtain ⟨middle, step, run⟩ := Option.bind_eq_some_iff.mp found
      exact breaks_step outline point _ middle step (ih middle run)

/-- A script on which the outline ends broken has a broken token. -/
theorem any_isBroken_ofText (text : Text) (next : Outline)
    (found : Outline.start.run text = some next) (isBroken : next.mode = .broken) :
    (ofText text).any ScriptToken.isBroken = true := by
  have fits : Fits { line := 1, blocks := [(0, 0)], brackets := [] } Outline.start := ⟨rfl, rfl⟩
  have trivially : ∀ rest, Breaks next rest := by
    intro rest
    rw [Breaks, isBroken]
    trivial
  rw [ofText]
  split
  · have whole := breaks_run Outline.start text next [] found (trivially [])
    rw [List.append_nil] at whole
    exact whole _ fits _ (Nat.le_refl _)
  · exact breaks_run Outline.start text next _ found (trivially _) _ fits _ (Nat.le_refl _)

end Steps

end EventForge.ScriptToken
