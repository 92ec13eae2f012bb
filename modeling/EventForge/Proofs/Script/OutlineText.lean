import EventForge.Proofs.Module.Search
import EventForge.Proofs.Schema.Identifier
import EventForge.Proofs.Script.OutlineRun

/-!
# The outline of parts of a text

Names, numbers, string literals and what stands in comments and descriptions lead an outline from one
place between two tokens to the next, whatever they are made of.
-/

namespace EventForge.ScriptToken.Outline

/-- An outline in another mode. -/
def within (outline : Outline) (mode : OutlineMode) : Outline := { outline with mode }

theorem run_append_of_eq {outline middle : Outline} {first second : Text}
    (found : outline.run first = some middle) :
    outline.run (first ++ second) = middle.run second := by
  rw [run_append, found, Option.bind_some]

/-- An outline that a text leaves as it is follows every text made of such parts. -/
theorem run_of_stays {outline : Outline} {text : Text}
    (stays : ∀ point ∈ text, outline.step point = some outline) :
    outline.run text = some outline := by
  induction text with
  | nil => rfl
  | cons point text ih =>
      rw [run_cons, stays point (by simp), Option.bind_some]
      exact ih fun other member => stays other (by simp [member])

/-- A broken outline stays as it is. -/
theorem run_broken (outline : Outline) (text : Text) :
    (outline.within .broken).run text = some (outline.within .broken) :=
  run_of_stays fun _ _ => rfl

section Names

theorem beginsWord_of_isFirst (point : CodePoint) (first : Identifier.isFirst point = true) :
    beginsWord point = true := by
  simp only [Identifier.isFirst, Bool.or_eq_true] at first
  simp only [beginsWord, Bool.or_eq_true]
  exact .inl first

theorem isWordPoint_of_isLater (point : CodePoint) (later : Identifier.isLater point = true) :
    isWordPoint point = true := by
  have bounds := (Identifier.isLater_iff point).mp later
  have underscore : point = CodePoint.ofChar '_' ↔ point.val = 95 := Fin.ext_iff
  simp only [isWordPoint, beginsWord, Bool.or_eq_true, decide_eq_true_eq,
    CodePoint.isAsciiLetter_iff, CodePoint.isAsciiDigit_iff, underscore]
  omega

/-- A letter between two tokens begins a word. -/
theorem between_of_isFirst (outline : Outline) (point : CodePoint)
    (first : Identifier.isFirst point = true) :
    outline.between point = some (outline.within .word) := by
  have bounds := (Identifier.isFirst_iff point).mp first
  have apart : ∀ char : Char, char.toNat < 65 → point ≠ CodePoint.ofChar char := by
    rintro char low rfl
    change (65 ≤ char.toNat ∧ _) ∨ (97 ≤ char.toNat ∧ _) ∨ char.toNat = 95 at bounds
    omega
  rw [between, if_neg (apart ' ' (by decide)), if_neg (by omega), if_neg (apart '#' (by decide)),
    if_neg (apart '"' (by decide)), if_pos (beginsWord_of_isFirst point first)]
  rfl

/-- A plain name is one word. -/
theorem run_name {outline next : Outline} {name : Text} (plain : Identifier.isPlain name = true)
    (begins : ∀ point, Identifier.isFirst point = true → outline.step point = next.between point) :
    outline.run name = some (next.within .word) := by
  cases name with
  | nil => cases plain
  | cons first rest =>
      simp only [Identifier.isPlain, Bool.and_eq_true, List.all_eq_true] at plain
      rw [run_cons, begins first plain.1, between_of_isFirst next first plain.1, Option.bind_some]
      apply run_of_stays
      intro point member
      exact if_pos (isWordPoint_of_isLater point (plain.2 point member))

/-- A word at the beginning of a line opens or closes blocks, unless a bracket is open. -/
theorem step_opening_of_isFirst (outline : Outline) (columns : Nat) (point : CodePoint)
    (first : Identifier.isFirst point = true) :
    (outline.within (.opening columns)).step point =
      if !outline.brackets.isEmpty then outline.between point
      else
        match blocksAt columns outline.blocks with
        | none => some (outline.within .broken)
        | some blocks => { outline with blocks }.between point := by
  have bounds := (Identifier.isFirst_iff point).mp first
  have apart : ∀ char : Char, char.toNat < 65 ∨ char.toNat = 92 →
      point ≠ CodePoint.ofChar char := by
    rintro char low rfl
    have value : (CodePoint.ofChar char).val = char.toNat := rfl
    omega
  have plain : ¬(point.val = 0x09 || point.val = 0x0C || point = CodePoint.ofChar '\\') = true := by
    simp only [Bool.or_eq_true, decide_eq_true_eq, apart '\\' (by decide), or_false]
    omega
  change (if point = _ then _ else if _ then none else if _ then outline.between point
    else if point = _ then _ else if point.val = 0x0A then _ else _) = _
  rw [if_neg (apart ' ' (by decide)), if_neg plain, if_neg (apart '#' (by decide)),
    if_neg (show ¬point.val = 0x0A by omega)]
  rfl

theorem step_sign_of_isFirst (outline : Outline) (point : CodePoint)
    (first : Identifier.isFirst point = true) :
    (outline.within .sign).step point = outline.between point := by
  have bounds := (Identifier.isFirst_iff point).mp first
  have noSign : isSign point = false := by
    rw [Bool.eq_false_iff]
    intro sign
    rw [isSign, Text.ofString_ofList, List.contains_iff_mem] at sign
    simp only [List.map_cons, List.map_nil, List.mem_cons, List.not_mem_nil, or_false,
      CodePoint.eq_ofChar_iff] at sign
    simp at sign
    omega
  have noDigit : point.isAsciiDigit = false := by
    rw [Bool.eq_false_iff]
    intro digit
    have range := (CodePoint.isAsciiDigit_iff point).mp digit
    omega
  change (if isSign point = true then _ else if point.isAsciiDigit = true then none
    else outline.between point) = _
  rw [noSign, noDigit, if_neg Bool.false_ne_true, if_neg Bool.false_ne_true]

end Names

section Numbers

/-- Decimal digits are one number. -/
theorem run_ofNat {outline next : Outline} (number : Nat)
    (begins : ∀ point, point.isAsciiDigit = true → outline.step point = some (next.within .number)) :
    outline.run (Text.ofNat number) = some (next.within .number) := by
  have digits := Text.isAsciiDigit_of_mem_ofNat number
  cases written : Text.ofNat number with
  | nil => exact absurd written (Text.ofNat_ne_nil number)
  | cons first rest =>
      rw [written] at digits
      rw [run_cons, begins first (digits first (by simp)), Option.bind_some]
      apply run_of_stays
      intro point member
      exact if_pos (digits point (by simp [member]))

end Numbers

section Strings

/-- A code point of a literal leads from inside of the literal to inside of it. -/
theorem run_plainPoint {outline next escape : Outline} (point : CodePoint)
    (first : ∀ other : CodePoint, 0x20 ≤ other.val → other ≠ CodePoint.ofChar '"' →
      other ≠ CodePoint.ofChar '\\' → outline.step other = some next)
    (later : ∀ other : CodePoint, 0x20 ≤ other.val → other ≠ CodePoint.ofChar '"' →
      other ≠ CodePoint.ofChar '\\' → next.step other = some next)
    (slash : outline.step '\\' = some escape)
    (escaped : ∀ other, escape.step other = some next) :
    outline.run (Json.plainPoint point) = some next := by
  rcases Literal.plainPoint_cases point with
    ⟨written, high, noQuote, noSlash⟩ | ⟨letter, written, -⟩ | ⟨written, low⟩
  · rw [written, run_cons, first point high noQuote noSlash]
    rfl
  · rw [written, run_cons, slash, Option.bind_some, run_cons, escaped]
    rfl
  · have digits : ∀ number : Fin 32, (Text.ofHex 4 number.val).all (fun digit =>
        0x20 ≤ digit.val && digit ≠ CodePoint.ofChar '"' && digit ≠ CodePoint.ofChar '\\') = true := by
      decide
    have shape : Json.numbered point.val =
        CodePoint.ofChar '\\' :: CodePoint.ofChar 'u' :: Text.ofHex 4 point.val := rfl
    rw [written, shape, run_cons, slash, Option.bind_some, run_cons, escaped, Option.bind_some]
    apply run_of_stays
    intro digit member
    have plain := List.all_eq_true.mp (digits ⟨point.val, low⟩) digit member
    simp only [Bool.and_eq_true, decide_eq_true_eq] at plain
    exact later digit plain.1.1 plain.1.2 plain.2

theorem step_short (outline : Outline) (other : CodePoint) (high : 0x20 ≤ other.val)
    (noQuote : other ≠ CodePoint.ofChar '"') (noSlash : other ≠ CodePoint.ofChar '\\') :
    (outline.within .quote).step other = some (outline.within .short) ∧
      (outline.within .short).step other = some (outline.within .short) := by
  have noFeed : ¬other.val = 0x0A := by omega
  constructor
  · change (if other = _ then _ else _) = _
    rw [if_neg noQuote, if_neg noSlash, if_neg noFeed]
    rfl
  · change (if other = _ then _ else _) = _
    rw [if_neg noQuote, if_neg noSlash, if_neg noFeed]

theorem run_flatMap_plainPoint {outline : Outline}
    (each : ∀ point, outline.run (Json.plainPoint point) = some outline) (text : Text) :
    outline.run (text.flatMap Json.plainPoint) = some outline := by
  induction text with
  | nil => rfl
  | cons point text ih => rw [List.flatMap_cons, run_append_of_eq (each point), ih]

/-- A literal ends as one token, whatever text it stands for. -/
theorem run_literal {outline next : Outline} (text : Text) (point : CodePoint)
    (begins : outline.step '"' = some (next.within .quote))
    (noQuote : point ≠ CodePoint.ofChar '"') :
    outline.run (Literal.ofText text ++ [point]) = next.between point := by
  have body : ∀ other, (next.within .short).run (Json.plainPoint other) =
      some (next.within .short) := fun other =>
    run_plainPoint other (fun point high noQuote noSlash =>
      (step_short next point high noQuote noSlash).2) (fun point high noQuote noSlash =>
      (step_short next point high noQuote noSlash).2) rfl fun _ => rfl
  have shape : Literal.ofText text ++ [point] = CodePoint.ofChar '"' ::
      (text.flatMap Json.plainPoint ++ [CodePoint.ofChar '"', point]) := by
    rw [Literal.ofText_eq]
    simp
  rw [shape, run_cons, begins, Option.bind_some]
  cases text with
  | nil =>
      change ((if point = _ then _ else next.between point).bind fun last => last.run []) = _
      rw [if_neg noQuote]
      cases next.between point <;> rfl
  | cons first text =>
      have opened : (next.within .quote).run (Json.plainPoint first) = some (next.within .short) :=
        run_plainPoint first (fun point high noQuote noSlash =>
          (step_short next point high noQuote noSlash).1) (fun point high noQuote noSlash =>
          (step_short next point high noQuote noSlash).2) rfl fun _ => rfl
      rw [List.flatMap_cons, List.append_assoc, run_append_of_eq opened,
        run_append_of_eq (run_flatMap_plainPoint body text)]
      change ((next.between point).bind fun last => last.run []) = _
      cases next.between point <;> rfl

/-- Whatever holds neither quotes nor backslashes stays in a description. -/
theorem run_long (outline : Outline) (text : Text)
    (bare : ∀ point ∈ text, point ≠ CodePoint.ofChar '"' ∧ point ≠ CodePoint.ofChar '\\') :
    (outline.within .long).run text = some (outline.within .long) := by
  apply run_of_stays
  intro point member
  obtain ⟨noQuote, noSlash⟩ := bare point member
  change (if point = _ then _ else _) = _
  rw [if_neg noQuote, if_neg noSlash]

theorem step_long_quote (outline : Outline) (point : CodePoint)
    (noQuote : point ≠ CodePoint.ofChar '"') (noSlash : point ≠ CodePoint.ofChar '\\') :
    (outline.within .longQuote).step point = some (outline.within .long) := by
  change (if point = _ then _ else _) = _
  rw [if_neg noQuote, if_neg noSlash]
  rfl

/-- A later point of a name is written as it is. -/
theorem plainPoint_of_isLater (point : CodePoint) (later : Identifier.isLater point = true) :
    point ≠ CodePoint.ofChar '"' ∧ point ≠ CodePoint.ofChar '\\' ∧
      Json.plainPoint point = [point] := by
  have bounds := (Identifier.isLater_iff point).mp later
  have apart : ∀ char : Char, char.toNat < 48 ∨ char.toNat = 92 →
      point ≠ CodePoint.ofChar char := by
    rintro char low rfl
    have value : (CodePoint.ofChar char).val = char.toNat := rfl
    omega
  have noQuote := apart '"' (by decide)
  have noSlash := apart '\\' (by decide)
  have noLetter : Json.lettered? point = none := by
    rw [Json.lettered?, if_neg noQuote, if_neg noSlash, if_neg (by omega), if_neg (by omega),
      if_neg (by omega), if_neg (by omega), if_neg (by omega)]
  refine ⟨noQuote, noSlash, ?_⟩
  rw [Json.plainPoint, noLetter, if_pos (by omega)]

/-- A literal in a description, if a plain name leads it. -/
theorem run_long_literal (outline : Outline) (name rest : Text) (point : CodePoint)
    (plain : Identifier.isPlain name = true) (noQuote : point ≠ CodePoint.ofChar '"')
    (noSlash : point ≠ CodePoint.ofChar '\\') :
    (outline.within .long).run (Literal.ofText (name ++ rest) ++ [point]) =
      some (outline.within .long) := by
  have body : ∀ other, (outline.within .long).run (Json.plainPoint other) =
      some (outline.within .long) := by
    have stays : ∀ other : CodePoint, 0x20 ≤ other.val → other ≠ CodePoint.ofChar '"' →
        other ≠ CodePoint.ofChar '\\' →
        (outline.within .long).step other = some (outline.within .long) := by
      intro other _ noQuote noSlash
      change (if other = _ then _ else _) = _
      rw [if_neg noQuote, if_neg noSlash]
    exact fun other => run_plainPoint other stays stays rfl fun _ => rfl
  cases name with
  | nil => cases plain
  | cons first later =>
      obtain ⟨noQuoteFirst, noSlashFirst, written⟩ := plainPoint_of_isLater first
        (Identifier.isLater_of_isPlain _ plain first List.mem_cons_self)
      have shape : Literal.ofText (first :: later ++ rest) ++ [point] = CodePoint.ofChar '"' ::
          (first :: ((later ++ rest).flatMap Json.plainPoint ++ [CodePoint.ofChar '"', point])) := by
        rw [Literal.ofText_eq]
        simp [written]
      rw [shape, run_cons]
      change ((outline.within .longQuote).run _) = _
      rw [run_cons, step_long_quote outline first noQuoteFirst noSlashFirst, Option.bind_some,
        run_append_of_eq (run_flatMap_plainPoint body _)]
      change (((outline.within .longQuote).step point).bind fun last => last.run []) = _
      rw [step_long_quote outline point noQuote noSlash]
      rfl

end Strings

section Tuples

open ModuleText

/-- What can stand behind an item: a comma, the bracket that closes, or the end of the line. -/
def IsEnd (point : CodePoint) : Prop :=
  point = CodePoint.ofChar ',' ∨ point = CodePoint.ofChar ')' ∨ point = CodePoint.ofChar '\n'

/-- Nothing is left of a text behind its last code point. -/
theorem run_last (outline : Outline) (point : CodePoint) :
    ((outline.between point).bind fun last => last.run []) = outline.between point := by
  cases outline.between point <;> rfl

/-- Whether an outline follows a text between two brackets or commas as one item. -/
def IsItem (item : Text) : Prop :=
  ∀ (outline : Outline) (point : CodePoint), IsEnd point →
    (outline.within .inside).run (item ++ [point]) = outline.between point

theorem isItem_literal (text : Text) : IsItem (Literal.ofText text) := by
  rintro outline point (rfl | rfl | rfl) <;> exact run_literal text _ rfl (by decide)

/-- What follows a word. -/
theorem run_word_end (outline : Outline) (point : CodePoint) (ends : IsEnd point) :
    (outline.within .word).run [point] = outline.between point := by
  rcases ends with rfl | rfl | rfl
  · rfl
  · exact run_last outline ')'
  · rfl

theorem isItem_name (name : Text) (plain : Identifier.isPlain name = true) : IsItem name := by
  intro outline point ends
  have named : (outline.within .inside).run name = some (outline.within .word) :=
    run_name plain fun _ _ => rfl
  rw [run_append_of_eq named, run_word_end outline point ends]

/-- A number between two tokens. -/
theorem run_number (outline : Outline) (number : Nat) :
    (outline.within .inside).run (Text.ofNat number) = some (outline.within .number) := by
  apply run_ofNat
  intro digit isDigit
  have range := (CodePoint.isAsciiDigit_iff digit).mp isDigit
  have apart : ∀ char : Char, char.toNat < 48 → digit ≠ CodePoint.ofChar char := by
    rintro char low rfl
    change 48 ≤ char.toNat ∧ _ at range
    omega
  have noWord : ¬beginsWord digit = true := by
    have underscore : digit = CodePoint.ofChar '_' ↔ digit.val = 95 := Fin.ext_iff
    simp only [beginsWord, Bool.or_eq_true, decide_eq_true_eq, CodePoint.isAsciiLetter_iff,
      underscore]
    omega
  change outline.between digit = _
  rw [between, if_neg (apart ' ' (by decide)), if_neg (by omega), if_neg (apart '#' (by decide)),
    if_neg (apart '"' (by decide)), if_neg noWord, if_pos isDigit]
  rfl

theorem isItem_ofNat (number : Nat) : IsItem (Text.ofNat number) := by
  intro outline point ends
  rw [run_append_of_eq (run_number outline number)]
  rcases ends with rfl | rfl | rfl
  · rfl
  · exact run_last outline ')'
  · rfl

theorem between_comma (outline : Outline) :
    outline.between ',' = some (outline.within .sign) := rfl

/-- Items with commas between them, up to what stands behind them. -/
theorem run_join_items (outline : Outline) (items : List Text) (inhabited : items ≠ [])
    (each : ∀ item ∈ items, IsItem item) (point : CodePoint) (ends : IsEnd point) :
    (outline.within .inside).run (Text.join ", " items ++ [point]) = outline.between point := by
  induction items with
  | nil => exact absurd rfl inhabited
  | cons item items ih =>
      cases items with
      | nil => exact each item (by simp) outline point ends
      | cons next items =>
          have first := each item (by simp) outline ',' (.inl rfl)
          rw [between_comma] at first
          have shape : Text.join ", " (item :: next :: items) ++ [point] =
              (item ++ [CodePoint.ofChar ',']) ++ (CodePoint.ofChar ' ' ::
                (Text.join ", " (next :: items) ++ [point])) := by
            rw [Text.join_cons_cons]
            simp [Text.ofString]
          rw [shape, run_append_of_eq first, run_cons]
          exact ih (by simp) fun other member => each other (by simp [member])

/-- A tuple of items is one item. -/
theorem run_tuple (outline : Outline) (items : List Text) (each : ∀ item ∈ items, IsItem item) :
    (outline.within .inside).run (tuple items) = some (outline.within .inside) := by
  let opened : Outline := { outline with brackets := CodePoint.ofChar '(' :: outline.brackets }
  have closed : opened.between ')' = some (outline.within .inside) := rfl
  have opens : ∀ text : Text, (outline.within .inside).run (CodePoint.ofChar '(' :: text) =
      (opened.within .inside).run text := fun _ => rfl
  match items with
  | [] => rfl
  | [item] =>
      have shape : tuple [item] = CodePoint.ofChar '(' ::
          ((item ++ [CodePoint.ofChar ',']) ++ [CodePoint.ofChar ')']) := by
        simp [tuple, Text.ofString]
      have first := each item (by simp) opened ',' (.inl rfl)
      rw [between_comma] at first
      rw [shape, opens, run_append_of_eq first]
      rfl
  | first :: second :: others =>
      have shape : tuple (first :: second :: others) = CodePoint.ofChar '(' ::
          (Text.join ", " (first :: second :: others) ++ [CodePoint.ofChar ')']) := by
        simp [tuple, Text.ofString]
      rw [shape, opens, run_join_items opened _ (by simp) each ')' (.inr (.inl rfl)), closed]

theorem isItem_pair (pair : Text × Text) : IsItem (pairText pair) := by
  intro outline point _
  have items : ∀ item ∈ [Literal.ofText pair.1, Literal.ofText pair.2], IsItem item := by
    intro item member
    simp only [List.mem_cons, List.not_mem_nil, or_false] at member
    rcases member with rfl | rfl
    · exact isItem_literal _
    · exact isItem_literal _
  have shape : pairText pair = tuple [Literal.ofText pair.1, Literal.ofText pair.2] := by
    simp [pairText, tuple, Text.join]
  rw [shape, run_append_of_eq (run_tuple outline _ items), run_cons]
  exact run_last outline point

end Tuples

end EventForge.ScriptToken.Outline
